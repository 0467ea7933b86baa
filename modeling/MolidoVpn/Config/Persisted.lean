import MolidoVpn.Account.Refusal
import MolidoVpn.Lib.Base64
import MolidoVpn.Lib.JavaScript

/-!
The identity as it is kept in a file (`config.rs`): the persisted form, its fields in a TOML
document, and what `load` makes of the file again. The TOML library and the texts of its errors are
parameters.
-/

namespace MolidoVpn.Config

open Account (AetherError Identity)
open JavaScript (strictUtf8)
open Utf8 (Valid encode fromUtf8Lossy)

structure PersistedIdentity where
  deviceId : List Char
  accessToken : List Char
  certPem : List Char
  keyPem : List Char
  certIssuedAt : UInt64
  ipv4 : List Char
  ipv6 : List Char
  wgPrivateKey : List Char
  wgPeerPublicKey : List Char
  clientId : List Char
  organization : List Char
  gatewayProxy : List Char
  assignedEndpoint : List Char

/-- A value of a document; the other types are rejected by every field here. -/
inductive TomlValue where
  | string (text : List Char)
  | integer (value : Int)
  | other
  deriving DecidableEq

abbrev Document := List (String × TomlValue)

/-- What is taken from libraries, with the texts of their errors. -/
structure Libraries where
  toStringPretty : Document → Except (List Char) (List Char)
  parse : List Char → Except (List Char) Document
  unfitting : Document → List Char
  base64Error : List Char → List Char

section Derived

/-- `Serialize` -/
def PersistedIdentity.document (p : PersistedIdentity) : Document :=
  [("device_id", .string p.deviceId), ("access_token", .string p.accessToken),
    ("cert_pem", .string p.certPem), ("key_pem", .string p.keyPem),
    ("cert_issued_at", .integer p.certIssuedAt.toNat), ("ipv4", .string p.ipv4),
    ("ipv6", .string p.ipv6), ("wg_private_key", .string p.wgPrivateKey),
    ("wg_peer_public_key", .string p.wgPeerPublicKey), ("client_id", .string p.clientId),
    ("organization", .string p.organization), ("gateway_proxy", .string p.gatewayProxy),
    ("assigned_endpoint", .string p.assignedEndpoint)]

def readText : TomlValue → Option (List Char)
  | .string text => some text
  | _ => none

def readU64 : TomlValue → Option UInt64
  | .integer value => if 0 ≤ value ∧ value < 2 ^ 64 then some (UInt64.ofNat value.toNat) else none
  | _ => none

def field {α : Type} (doc : Document) (read : TomlValue → Option α) (default : Option α)
    (key : String) : Option α :=
  match doc.lookup key with
  | some value => read value
  | none => default

/-- `Deserialize`; fields that are unknown are passed over. -/
def PersistedIdentity.ofDocument (doc : Document) : Option PersistedIdentity := do
  let deviceId ← field doc readText none "device_id"
  let accessToken ← field doc readText none "access_token"
  let certPem ← field doc readText (some []) "cert_pem"
  let keyPem ← field doc readText (some []) "key_pem"
  let certIssuedAt ← field doc readU64 (some 0) "cert_issued_at"
  let ipv4 ← field doc readText none "ipv4"
  let ipv6 ← field doc readText none "ipv6"
  let wgPrivateKey ← field doc readText none "wg_private_key"
  let wgPeerPublicKey ← field doc readText none "wg_peer_public_key"
  let clientId ← field doc readText (some []) "client_id"
  let organization ← field doc readText (some []) "organization"
  let gatewayProxy ← field doc readText (some []) "gateway_proxy"
  let assignedEndpoint ← field doc readText (some []) "assigned_endpoint"
  return { deviceId, accessToken, certPem, keyPem, certIssuedAt, ipv4, ipv6, wgPrivateKey,
           wgPeerPublicKey, clientId, organization, gatewayProxy, assignedEndpoint }

end Derived

section Conversions

/-- `From<&Identity>` -/
def PersistedIdentity.ofIdentity (id : Identity) : PersistedIdentity :=
  { deviceId := id.deviceId
    accessToken := id.accessToken
    certPem := fromUtf8Lossy id.certPem
    keyPem := fromUtf8Lossy id.keyPem
    certIssuedAt := id.certIssuedAt
    ipv4 := id.ipv4
    ipv6 := id.ipv6
    wgPrivateKey := Base64.encode id.wgPrivateKey
    wgPeerPublicKey := Base64.encode id.wgPeerPublicKey
    clientId := Base64.encode id.clientId
    organization := id.organization
    gatewayProxy := id.gatewayProxy
    assignedEndpoint := id.assignedEndpoint }

variable (lib : Libraries)

def decodeFixed (size : Nat) (field : String) (value : List Char) :
    Except AetherError (List UInt8) :=
  match Base64.decodeStandard value with
  | none =>
      .error (.other ("config field ".toList ++ field.toList ++ " is not valid base64: ".toList ++
        lib.base64Error value))
  | some decoded =>
      if decoded.length ≠ size then
        .error (.other ("config field ".toList ++ field.toList ++ " must decode to ".toList ++
          Text.decimal size ++ " bytes, found ".toList ++ Text.decimal decoded.length))
      else .ok decoded

/-- `TryFrom<PersistedIdentity>` -/
def PersistedIdentity.toIdentity (p : PersistedIdentity) : Except AetherError Identity := do
  let wgPrivateKey ← decodeFixed lib 32 "wg_private_key" p.wgPrivateKey
  let wgPeerPublicKey ← decodeFixed lib 32 "wg_peer_public_key" p.wgPeerPublicKey
  let clientId :=
    if p.clientId = [] then [0, 0, 0]
    else (decodeFixed lib 3 "client_id" p.clientId).toOption.getD [0, 0, 0]
  return { deviceId := p.deviceId
           accessToken := p.accessToken
           certPem := encode p.certPem
           keyPem := encode p.keyPem
           certIssuedAt := p.certIssuedAt
           ipv4 := p.ipv4
           ipv6 := p.ipv6
           wgPrivateKey
           wgPeerPublicKey
           clientId
           organization := p.organization
           gatewayProxy := p.gatewayProxy
           assignedEndpoint := p.assignedEndpoint
           refused := false }

/-- The bytes that `save` writes. -/
def save (identity : Identity) : Except AetherError (List UInt8) :=
  match lib.toStringPretty (PersistedIdentity.ofIdentity identity).document with
  | .ok text => .ok (encode text)
  | .error e => .error (.other ("config encode: ".toList ++ e))

/-- What is said of a file that cannot be used, by where it has been moved to. -/
def quarantined (path e : List Char) : Option (List Char) → List Char
  | some target =>
      e ++ "; the damaged file was moved to ".toList ++ target ++
        " so a fresh identity can be provisioned".toList
  | none => e ++ "; delete ".toList ++ path ++ " to provision a fresh identity".toList

def fromStr (text : List Char) : Except (List Char) PersistedIdentity :=
  match lib.parse text with
  | .error e => .error e
  | .ok doc =>
      match PersistedIdentity.ofDocument doc with
      | none => .error (lib.unfitting doc)
      | some persisted => .ok persisted

def load (path : List Char) (moved : Option (List Char)) :
    Option (List UInt8) → Except AetherError (Option Identity)
  | none => .ok none
  | some contents =>
      match strictUtf8 contents with
      | none => .error (.io "stream did not contain valid UTF-8".toList)
      | some text =>
          match fromStr lib text with
          | .error e => .error (.other (quarantined path ("config parse: ".toList ++ e) moved))
          | .ok persisted =>
              match persisted.toIdentity lib with
              | .ok identity => .ok (some identity)
              | .error e => .error (.other (quarantined path e.display moved))

end Conversions

section RoundTrip

/-- The lengths of the three byte arrays are in their types. -/
structure SizedIdentity extends Identity where
  privateKey : wgPrivateKey.length = 32
  peerPublicKey : wgPeerPublicKey.length = 32
  client : clientId.length = 3

/-- The optional fields that an identity leaves at their defaults. -/
def unset (identity : Identity) : List String :=
  (if identity.certPem = [] then ["cert_pem"] else []) ++
  (if identity.keyPem = [] then ["key_pem"] else []) ++
  (if identity.certIssuedAt = 0 then ["cert_issued_at"] else []) ++
  (if identity.clientId = [0, 0, 0] then ["client_id"] else []) ++
  (if identity.organization = [] then ["organization"] else []) ++
  (if identity.gatewayProxy = [] then ["gateway_proxy"] else []) ++
  (if identity.assignedEndpoint = [] then ["assigned_endpoint"] else [])

def without (absent : List String) (doc : Document) : Document :=
  doc.filter fun field => field.1 ∉ absent

theorem lookup_without (absent : List String) (doc : Document) (key : String) :
    (without absent doc).lookup key = if key ∈ absent then none else doc.lookup key := by
  induction doc with
  | nil =>
      split
      · rfl
      · rfl
  | cons first doc ih =>
      obtain ⟨name, value⟩ := first
      rw [without] at ih ⊢
      rw [List.filter_cons]
      by_cases same : key = name
      · subst same
        by_cases gone : key ∈ absent
        · rw [if_neg (by simpa using gone), ih, if_pos gone, if_pos gone]
        · rw [if_pos (by simpa using gone), if_neg gone, List.lookup_cons_self,
            List.lookup_cons_self]
      · have other : (key == name) = false := beq_eq_false_iff_ne.mpr same
        rw [List.lookup_cons, other]
        split
        · rw [List.lookup_cons, other]
          exact ih
        · exact ih

variable {identity : Identity} {absent : List String}

/-- A field without a default is there. -/
theorem field_given {α : Type} {read : TomlValue → Option α} {default : Option α} {key : String}
    {value : TomlValue} {doc : Document} (there : doc.lookup key = some value)
    (kept : key ∉ absent) : field (without absent doc) read default key = read value := by
  rw [field, lookup_without, if_neg kept, there]

/-- A field with a default is there, or left out where it has it. -/
theorem field_optional {α : Type} {read : TomlValue → Option α} {default : α} {key : String}
    {value : TomlValue} {doc : Document} (there : doc.lookup key = some value)
    (same : key ∈ absent → read value = some default) :
    field (without absent doc) read (some default) key = read value := by
  rw [field, lookup_without, there]
  by_cases gone : key ∈ absent
  · rw [if_pos gone, same gone]
  · rw [if_neg gone]

theorem readU64_toNat (value : UInt64) : readU64 (.integer value.toNat) = some value := by
  have bound := value.toNat_lt
  rw [readU64, if_pos (by omega), Int.toNat_natCast, UInt64.ofNat_toNat]

theorem mem_unset_iff (identity : Identity) (key : String) :
    key ∈ unset identity ↔
      key = "cert_pem" ∧ identity.certPem = [] ∨ key = "key_pem" ∧ identity.keyPem = [] ∨
      key = "cert_issued_at" ∧ identity.certIssuedAt = 0 ∨
      key = "client_id" ∧ identity.clientId = [0, 0, 0] ∨
      key = "organization" ∧ identity.organization = [] ∨
      key = "gateway_proxy" ∧ identity.gatewayProxy = [] ∨
      key = "assigned_endpoint" ∧ identity.assignedEndpoint = [] := by
  have single (condition : Prop) [Decidable condition] (name : String) :
      key ∈ (if condition then [name] else []) ↔ key = name ∧ condition := by
    split
    · rename_i holds
      rw [List.mem_singleton, and_iff_left holds]
    · rename_i fails
      exact iff_of_false List.not_mem_nil fun both => fails both.2
  simp only [unset, List.mem_append, single, or_assoc]

private theorem lookup_document (p : PersistedIdentity) :
    p.document.lookup "device_id" = some (.string p.deviceId) ∧
      p.document.lookup "access_token" = some (.string p.accessToken) ∧
      p.document.lookup "cert_pem" = some (.string p.certPem) ∧
      p.document.lookup "key_pem" = some (.string p.keyPem) ∧
      p.document.lookup "cert_issued_at" = some (.integer p.certIssuedAt.toNat) ∧
      p.document.lookup "ipv4" = some (.string p.ipv4) ∧
      p.document.lookup "ipv6" = some (.string p.ipv6) ∧
      p.document.lookup "wg_private_key" = some (.string p.wgPrivateKey) ∧
      p.document.lookup "wg_peer_public_key" = some (.string p.wgPeerPublicKey) ∧
      p.document.lookup "client_id" = some (.string p.clientId) ∧
      p.document.lookup "organization" = some (.string p.organization) ∧
      p.document.lookup "gateway_proxy" = some (.string p.gatewayProxy) ∧
      p.document.lookup "assigned_endpoint" = some (.string p.assignedEndpoint) := by
  simp [PersistedIdentity.document, List.lookup_cons]

/-- The document is read as it was written, whichever optional fields are left out. -/
theorem ofDocument_without (defaults : ∀ key ∈ absent, key ∈ unset identity) :
    PersistedIdentity.ofDocument
        (without absent (PersistedIdentity.ofIdentity identity).document) =
      some { PersistedIdentity.ofIdentity identity with
             clientId :=
               if "client_id" ∈ absent then [] else Base64.encode identity.clientId } := by
  have given (key : String) (text : List Char)
      (there : (PersistedIdentity.ofIdentity identity).document.lookup key = some (.string text))
      (required : key ∉ unset identity) :
      field (without absent (PersistedIdentity.ofIdentity identity).document) readText none key =
        some text :=
    field_given there fun gone => required (defaults key gone)
  have optional (key : String) (text : List Char)
      (there : (PersistedIdentity.ofIdentity identity).document.lookup key = some (.string text))
      (empty : key ∈ unset identity → text = []) :
      field (without absent (PersistedIdentity.ofIdentity identity).document) readText (some [])
        key = some text :=
    field_optional there fun gone => congrArg some (empty (defaults key gone))
  have required : ∀ key ∈ ["device_id", "access_token", "ipv4", "ipv6", "wg_private_key",
      "wg_peer_public_key"], key ∉ unset identity := by
    simp [mem_unset_iff]
  obtain ⟨deviceId, accessToken, certPem, keyPem, issuedAt, ipv4, ipv6, privateKey, peerKey,
    clientId, organization, gatewayProxy, endpoint⟩ :=
      lookup_document (PersistedIdentity.ofIdentity identity)
  have issued : field (without absent (PersistedIdentity.ofIdentity identity).document) readU64
      (some 0) "cert_issued_at" = some identity.certIssuedAt := by
    refine (field_optional issuedAt fun gone => ?_).trans (readU64_toNat _)
    have zero : identity.certIssuedAt = 0 := by
      simpa [mem_unset_iff] using defaults _ gone
    exact (readU64_toNat _).trans (congrArg some zero)
  have client : field (without absent (PersistedIdentity.ofIdentity identity).document) readText
      (some []) "client_id" =
        some (if "client_id" ∈ absent then [] else Base64.encode identity.clientId) := by
    rw [field, lookup_without, clientId]
    by_cases gone : "client_id" ∈ absent
    · rw [if_pos gone, if_pos gone]
    · rw [if_neg gone, if_neg gone]
      rfl
  have pem {bytes : List UInt8} (empty : bytes = []) : fromUtf8Lossy bytes = [] := by
    rw [empty]
    rfl
  unfold PersistedIdentity.ofDocument
  rw [client, issued, given _ _ deviceId (required _ (by simp)),
    given _ _ accessToken (required _ (by simp)), given _ _ ipv4 (required _ (by simp)),
    given _ _ ipv6 (required _ (by simp)), given _ _ privateKey (required _ (by simp)),
    given _ _ peerKey (required _ (by simp)),
    optional _ _ certPem fun gone => pem (by simpa [mem_unset_iff] using gone),
    optional _ _ keyPem fun gone => pem (by simpa [mem_unset_iff] using gone),
    optional _ identity.organization organization fun gone => by simpa [mem_unset_iff] using gone,
    optional _ identity.gatewayProxy gatewayProxy fun gone => by simpa [mem_unset_iff] using gone,
    optional _ identity.assignedEndpoint endpoint fun gone => by simpa [mem_unset_iff] using gone]
  rfl

variable (lib : Libraries)

theorem decodeFixed_encode {size : Nat} (name : String) {bytes : List UInt8}
    (length : bytes.length = size) :
    decodeFixed lib size name (Base64.encode bytes) = .ok bytes := by
  rw [decodeFixed, Base64.decodeStandard_encode]
  exact if_neg (not_not.mpr length)

/-- The persisted form is turned back, also without the identification that is all zeros. -/
theorem toIdentity_ofIdentity (identity : SizedIdentity) (current : identity.refused = false)
    (cert : Valid identity.certPem) (key : Valid identity.keyPem) {client : List Char}
    (same : client = Base64.encode identity.clientId ∨
      client = [] ∧ identity.clientId = [0, 0, 0]) :
    PersistedIdentity.toIdentity lib
        { PersistedIdentity.ofIdentity identity.toIdentity with clientId := client } =
      .ok identity.toIdentity := by
  have certPem : encode (fromUtf8Lossy identity.certPem) = identity.certPem := cert.repaired
  have keyPem : encode (fromUtf8Lossy identity.keyPem) = identity.keyPem := key.repaired
  have clientId : (if client = [] then [0, 0, 0]
      else (decodeFixed lib 3 "client_id" client).toOption.getD [0, 0, 0]) =
        identity.clientId := by
    rcases same with rfl | ⟨rfl, zeros⟩
    · rw [if_neg, decodeFixed_encode lib "client_id" identity.client]
      · rfl
      · obtain ⟨a, b, c, three⟩ := List.length_eq_three.mp identity.client
        rw [three]
        exact List.cons_ne_nil _ _
    · rw [if_pos rfl, zeros]
  unfold PersistedIdentity.toIdentity PersistedIdentity.ofIdentity
  dsimp only
  rw [decodeFixed_encode lib "wg_private_key" identity.privateKey,
    decodeFixed_encode lib "wg_peer_public_key" identity.peerPublicKey, clientId, certPem, keyPem,
    ← current]
  rfl

/-- A file whose text stands for the document, with any optional fields at their defaults left
out, gives the identity. -/
theorem load_without (path : List Char) (moved : Option (List Char)) (absent : List String)
    (identity : SizedIdentity) (current : identity.refused = false)
    (cert : Valid identity.certPem) (key : Valid identity.keyPem)
    (defaults : ∀ key ∈ absent, key ∈ unset identity.toIdentity) {text : List Char}
    (read : lib.parse text =
      .ok (without absent (PersistedIdentity.ofIdentity identity.toIdentity).document)) :
    load lib path moved (some (encode text)) = .ok (some identity.toIdentity) := by
  have strict : strictUtf8 (encode text) = some text := by
    rw [strictUtf8, Utf8.fromUtf8Lossy_encode, if_pos rfl]
  unfold load fromStr
  dsimp only
  rw [strict]
  dsimp only
  rw [read]
  dsimp only
  rw [ofDocument_without defaults]
  dsimp only
  rw [toIdentity_ofIdentity lib identity current cert key]
  by_cases gone : "client_id" ∈ absent
  · right
    have zeros := defaults _ gone
    exact ⟨if_pos gone, by simpa [mem_unset_iff] using zeros⟩
  · left
    exact if_neg gone

/-- What `save` writes is loaded as the identity that it was, where the TOML library reads what it
has written, and so is any text of the same document without fields that have their defaults. -/
theorem load_save (path : List Char) (moved : Option (List Char)) (identity : SizedIdentity)
    (current : identity.refused = false) (cert : Valid identity.certPem)
    (key : Valid identity.keyPem) {text : List Char}
    (written : lib.toStringPretty
      (PersistedIdentity.ofIdentity identity.toIdentity).document = .ok text)
    (read : lib.parse text = .ok (PersistedIdentity.ofIdentity identity.toIdentity).document) :
    save lib identity.toIdentity = .ok (encode text) ∧
      load lib path moved (some (encode text)) = .ok (some identity.toIdentity) ∧
      ∀ absent text', (∀ key ∈ absent, key ∈ unset identity.toIdentity) →
        lib.parse text' =
          .ok (without absent (PersistedIdentity.ofIdentity identity.toIdentity).document) →
        load lib path moved (some (encode text')) = .ok (some identity.toIdentity) := by
  have whole : without [] (PersistedIdentity.ofIdentity identity.toIdentity).document =
      (PersistedIdentity.ofIdentity identity.toIdentity).document := by
    rw [without, List.filter_eq_self]
    intro field _
    exact decide_eq_true List.not_mem_nil
  refine ⟨?_, ?_, ?_⟩
  · rw [save, written]
  · apply load_without lib path moved [] identity current cert key
    · exact fun _ member => absurd member List.not_mem_nil
    · rw [whole]
      exact read
  · intro absent text' defaults read'
    exact load_without lib path moved absent identity current cert key defaults read'

/-- An identity without a certificate and without an organization. -/
def plainIdentity : SizedIdentity :=
  { deviceId := "d1".toList
    accessToken := "t1".toList
    certPem := []
    keyPem := []
    certIssuedAt := 0
    ipv4 := "172.16.0.2".toList
    ipv6 := "2606:4700:110::2".toList
    wgPrivateKey := List.replicate 32 1
    wgPeerPublicKey := List.replicate 32 2
    clientId := [7, 8, 9]
    organization := []
    gatewayProxy := []
    assignedEndpoint := []
    refused := false
    privateKey := rfl
    peerPublicKey := rfl
    client := rfl }

def plainText : List Char :=
  ("device_id = \"d1\"\naccess_token = \"t1\"\ncert_pem = \"\"\nkey_pem = \"\"\n" ++
    "cert_issued_at = 0\nipv4 = \"172.16.0.2\"\nipv6 = \"2606:4700:110::2\"\n" ++
    "wg_private_key = \"AQEBAQEBAQEBAQEBAQEBAQEBAQEBAQEBAQEBAQEBAQE=\"\n" ++
    "wg_peer_public_key = \"AgICAgICAgICAgICAgICAgICAgICAgICAgICAgICAgI=\"\n" ++
    "client_id = \"BwgJ\"\norganization = \"\"\ngateway_proxy = \"\"\n" ++
    "assigned_endpoint = \"\"\n").toList

/-- What the libraries do with this one document. -/
def plainLibraries : Libraries :=
  { toStringPretty := fun _ => .ok plainText
    parse := fun _ => .ok (PersistedIdentity.ofIdentity plainIdentity.toIdentity).document
    unfitting := fun _ => []
    base64Error := fun _ => [] }

theorem load_save_plain :
    load plainLibraries "aether.toml".toList none (some (encode plainText)) =
      .ok (some plainIdentity.toIdentity) :=
  (load_save plainLibraries "aether.toml".toList none plainIdentity rfl ⟨[], rfl⟩ ⟨[], rfl⟩ rfl
    rfl).2.1

end RoundTrip

end MolidoVpn.Config
