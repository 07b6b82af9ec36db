import ResearchOs.Data.Base64
import ResearchOs.Data.Sha256
import ResearchOs.Data.JsonAscii
import ResearchOs.Core.Workers.Expiries

/-! The tokens that bind a grant or a worker session by an HMAC. -/
namespace ResearchOs.Workers

open JsonText (FloatText Texts textMembers loadsBytes dumpsAscii)

/-- An error of the worker plane, a `UnicodeEncodeError`, or a `TypeError`. -/
inductive TokenError where
  | worker (error : WorkerError)
  | unicodeEncode
  | type
  deriving DecidableEq, Repr

def TokenError.grant (message code : String) : TokenError := .worker (.grant message code)

def invalidToken (message : String) : TokenError := .grant message "grant-token-invalid"

def fromTokenWorker {α : Type} : Except WorkerError α → Except TokenError α
  | .ok a => .ok a
  | .error e => .error (.worker e)

def grantTokenVersion : String := "rg1"

def workerSessionVersion : String := "ws1"

def hmacKeyBytes : Nat := 32

/-- `_KEY_ID` -/
def localKeyId : String := "local.hmac.1"

structure HmacKey where
  bytes : List Nat
  size : bytes.length = hmacKeyBytes

/-- `require_hmac_key` -/
def requireHmacKey (key : List Nat) : Except TokenError HmacKey :=
  if h : key.length = hmacKeyBytes then .ok ⟨key, h⟩
  else .error (.grant "HMAC key must be 32 bytes" "hmac-key-invalid")

abbrev NonEmptyText := { text : String // text ≠ "" }

/-- The claims of a grant as they are signed. -/
structure IssuedClaims where
  grantId : NonEmptyText
  grantEventId : NonEmptyText
  workerId : NonEmptyText
  taskId : NonEmptyText
  attemptId : NonEmptyText
  runId : NonEmptyText
  nonce : NonEmptyText
  expiresAt : Rfc3339Timestamp
  projectId : NonEmptyText
  imageDigest : NonEmptyText
  configDigest : NonEmptyText

/-- The claims of a grant token, in key order. -/
def grantMembers (claims : IssuedClaims) : Texts :=
  [("attemptId", claims.attemptId.val), ("configDigest", claims.configDigest.val),
    ("exp", claims.expiresAt.val), ("grantEventId", claims.grantEventId.val),
    ("grantId", claims.grantId.val), ("imageDigest", claims.imageDigest.val),
    ("keyId", localKeyId), ("nonce", claims.nonce.val), ("projectId", claims.projectId.val),
    ("runId", claims.runId.val), ("taskId", claims.taskId.val), ("v", grantTokenVersion),
    ("workerId", claims.workerId.val)]

/-- The claims of a worker session, in key order. -/
def sessionMembers (workerId : NonEmptyText) : Texts :=
  [("v", workerSessionVersion), ("workerId", workerId.val)]

/-- `_encode_payload` -/
def encodePayload (claims : Texts) : List Char := Base64.encode (Text.bytesOf (dumpsAscii claims))

def hmacOf (key : HmacKey) (payload : List Char) : List Char :=
  Hmac.hexdigest key.bytes (payload.map Char.toNat)

/-- `_sign` -/
def sign (key : HmacKey) (version : String) (claims : Texts) : String :=
  let payload := encodePayload claims
  String.ofList (['.'].intercalate [version.toList, payload, hmacOf key payload])

/-- `issue_grant_token` -/
def issueGrantToken (key : List Nat) (claims : IssuedClaims) : Except TokenError String := do
  let key ← requireHmacKey key
  pure (sign key grantTokenVersion (grantMembers claims))

/-- `issue_worker_session` -/
def issueWorkerSession (key : List Nat) (workerId : NonEmptyText) : Except TokenError String := do
  let key ← requireHmacKey key
  pure (sign key workerSessionVersion (sessionMembers workerId))

def isAscii (cs : List Char) : Bool := cs.all fun c => c.toNat < 128

/-- `hmac.compare_digest` of two texts; a text that is not ASCII is a `TypeError`. -/
def compareDigest (a b : List Char) : Except TokenError Bool :=
  if isAscii a && isAscii b then .ok (a == b) else .error .type

/-- `_decode_payload` -/
def decodePayload (payload : List Char) : Option (List Nat) :=
  if isAscii payload then Base64.decode payload else none

section

variable (F : FloatText)

/-- `_verify` -/
def verifyToken (key : HmacKey) (version token : String) : Except TokenError Json.Members :=
  match token.toList.splitOn '.' with
  | [tokenVersion, payload, mac] =>
    if tokenVersion ≠ version.toList then .error (invalidToken "token version is not supported")
    else if isAscii payload = false then .error .unicodeEncode
    else do
      let same ← compareDigest mac (hmacOf key payload)
      if same = false then .error (.grant "token HMAC does not match" "grant-hmac-mismatch")
      else
        -- An error of the decoding is a `ValueError`, and is reported as one of the JSON text.
        match (decodePayload payload).bind (loadsBytes F) with
        | none => .error (invalidToken "token payload is not JSON")
        | some (.obj claims) => .ok claims
        | some _ => .error (invalidToken "token payload must be an object")
  | _ => .error (invalidToken "token encoding is invalid")

def claimText (claims : Json.Members) (field : String) : Option String :=
  match claims.lookup field with
  | some (.str text) => some text
  | _ => none

def requiredClaims : List String :=
  ["grantId", "grantEventId", "workerId", "taskId", "attemptId", "runId", "nonce", "keyId",
    "projectId", "imageDigest", "configDigest"]

def requiredClaim (claims : Json.Members) (field : String) : Except TokenError (String × String) :=
  match claimText claims field with
  | none => .error (invalidToken "grant token is missing a required claim")
  | some text =>
    if text = "" then .error (invalidToken "grant token is missing a required claim")
    else .ok (field, text)

/-- `verify_grant_token`; the `exp` of an issued token is a timestamp as an event may hold it. -/
def verifyGrantToken (key : List Nat) (token : String) (now : Instant) (requireLive : Bool) :
    Except TokenError Texts := do
  let key ← requireHmacKey key
  let claims ← verifyToken F key grantTokenVersion token
  match claimText claims "exp" with
  | none => .error (invalidToken "grant token is missing exp")
  | some expiresAt =>
    if requireLive then
      let expiry ← fromTokenWorker (parseRfc3339Text expiresAt)
      if expiry ≤ now then .error (.grant "grant token has expired" "grant-expired")
    let required ← requiredClaims.mapM (requiredClaim claims)
    if claimText claims "keyId" ≠ some localKeyId then
      .error (.grant "grant token keyId is unknown" "grant-key-unknown")
    pure (required ++ [("exp", expiresAt)])

/-- `verify_worker_session` -/
def verifyWorkerSession (key : List Nat) (token : String) : Except TokenError String := do
  let key ← requireHmacKey key
  let claims ← verifyToken F key workerSessionVersion token
  match claimText claims "workerId" with
  | none => .error (.grant "worker session is invalid" "worker-session-invalid")
  | some workerId =>
    if workerId = "" then .error (.grant "worker session is invalid" "worker-session-invalid")
    else pure workerId

end

/-- What the verification of a grant token returns of the claims. -/
def IssuedClaims.texts (claims : IssuedClaims) : Texts :=
  [("grantId", claims.grantId.val), ("grantEventId", claims.grantEventId.val),
    ("workerId", claims.workerId.val), ("taskId", claims.taskId.val),
    ("attemptId", claims.attemptId.val), ("runId", claims.runId.val), ("nonce", claims.nonce.val),
    ("keyId", localKeyId), ("projectId", claims.projectId.val),
    ("imageDigest", claims.imageDigest.val), ("configDigest", claims.configDigest.val),
    ("exp", claims.expiresAt.val)]

/-- A code that nobody can compute without the key: where the code of a token matches, its payload
was signed with the key. -/
def Unforged (key : HmacKey) (token : String) : Prop :=
  ∀ version payload, token.toList.splitOn '.' = [version, payload, hmacOf key payload] →
    isAscii payload = true →
    (∃ claims : IssuedClaims, payload = encodePayload (grantMembers claims)) ∨
      ∃ workerId : NonEmptyText, payload = encodePayload (sessionMembers workerId)

/-- A token of this version has no character beyond ASCII in its payload and its code. -/
def TokenReadable (version token : String) : Prop :=
  ∀ payload mac, token.toList.splitOn '.' = [version.toList, payload, mac] →
    isAscii payload = true ∧ isAscii mac = true

variable {F : FloatText} {key : HmacKey} {token version : String} {ms : Texts}
  {claims : IssuedClaims} {workerId : NonEmptyText} {now : Instant} {requireLive : Bool}

theorem requireHmacKey_bytes : requireHmacKey key.bytes = .ok key := dif_pos key.size

/-! The parts of a signed token. -/

theorem isAscii_iff {cs : List Char} : isAscii cs = true ↔ ∀ c ∈ cs, c.toNat < 128 := by
  simp [isAscii]

theorem isAscii_hmacOf (payload : List Char) : isAscii (hmacOf key payload) = true :=
  isAscii_iff.mpr fun _ hc => (Hmac.mem_hexdigest hc).1

theorem isAscii_encodePayload : isAscii (encodePayload ms) = true :=
  isAscii_iff.mpr Base64.isAscii_encode

theorem sorted_grantMembers : Json.Sorted (textMembers (grantMembers claims)) := by
  show List.Pairwise _ ["attemptId", "configDigest", "exp", "grantEventId", "grantId",
    "imageDigest", "keyId", "nonce", "projectId", "runId", "taskId", "v", "workerId"]
  decide +kernel

theorem sorted_sessionMembers : Json.Sorted (textMembers (sessionMembers workerId)) := by
  show List.Pairwise _ ["v", "workerId"]
  decide +kernel

theorem splitOn_sign (hversion : '.' ∉ version.toList) :
    (sign key version ms).toList.splitOn '.' =
      [version.toList, encodePayload ms, hmacOf key (encodePayload ms)] := by
  rw [sign, String.toList_ofList]
  refine List.splitOn_intercalate '.' ?_ (by simp)
  simp only [List.forall_mem_cons]
  exact ⟨hversion, Base64.point_not_mem_encode, fun hmem => (Hmac.mem_hexdigest hmem).2 rfl, by simp⟩

/-- A token with the parts of a signed one is the signed one. -/
theorem eq_sign (h : token.toList.splitOn '.' =
    [version.toList, encodePayload ms, hmacOf key (encodePayload ms)]) :
    token = sign key version ms := by
  rw [sign, ← h, List.intercalate_splitOn, String.ofList_toList]

theorem loadsBytes_encodePayload (h : Json.Sorted (textMembers ms)) :
    (decodePayload (encodePayload ms)).bind (loadsBytes F) = some (.obj (textMembers ms)) := by
  rw [decodePayload, if_pos isAscii_encodePayload, encodePayload,
    Base64.decode_encode Text.lt_of_mem_bytesOf, Option.bind_some, JsonText.loadsBytes_dumpsAscii h]

theorem verifyToken_sign (hversion : '.' ∉ version.toList) (h : Json.Sorted (textMembers ms)) :
    verifyToken F key version (sign key version ms) = .ok (textMembers ms) := by
  have hcompare : compareDigest (hmacOf key (encodePayload ms)) (hmacOf key (encodePayload ms)) =
      .ok true := by
    rw [compareDigest, if_pos (by simp [isAscii_hmacOf]), beq_self_eq_true]
  rw [verifyToken, splitOn_sign hversion]
  simp only [ne_eq, not_true_eq_false, if_false, isAscii_encodePayload, hcompare, bind, Except.bind,
    loadsBytes_encodePayload h, Bool.true_eq_false]

theorem verifyToken_unreadable (h : ¬ TokenReadable version token) :
    verifyToken F key version token = .error .unicodeEncode ∨
      verifyToken F key version token = .error .type := by
  simp only [TokenReadable, not_forall] at h
  obtain ⟨payload, mac, hsplit, h⟩ := h
  rw [verifyToken, hsplit]
  simp only [ne_eq, not_true_eq_false, if_false]
  cases hpayload : isAscii payload with
  | false => exact .inl rfl
  | true =>
    have hmac : isAscii mac = false := by
      rw [← Bool.not_eq_true]
      exact fun hmac => h ⟨hpayload, hmac⟩
    right
    simp [compareDigest, hmac, bind, Except.bind]

/-- A readable token is refused, or it was signed. -/
theorem verifyToken_cases (h : Unforged key token) (hread : TokenReadable version token) :
    (∃ message code, verifyToken F key version token = .error (.grant message code)) ∨
      (∃ claims, token = sign key version (grantMembers claims)) ∨
      ∃ workerId, token = sign key version (sessionMembers workerId) := by
  rw [verifyToken]
  split
  · rename_i tokenVersion payload mac hsplit
    split_ifs with hversion hpayload
    · exact .inl ⟨_, _, rfl⟩
    · rw [not_not.mp hversion] at hsplit
      rw [(hread payload mac hsplit).1] at hpayload
      cases hpayload
    · obtain rfl := not_not.mp hversion
      obtain ⟨hascii, hmac⟩ := hread payload mac hsplit
      by_cases hsame : mac = hmacOf key payload
      · subst hsame
        rcases h _ payload hsplit hascii with ⟨claims, rfl⟩ | ⟨workerId, rfl⟩
        · exact .inr (.inl ⟨claims, eq_sign hsplit⟩)
        · exact .inr (.inr ⟨workerId, eq_sign hsplit⟩)
      · left
        refine ⟨"token HMAC does not match", "grant-hmac-mismatch", ?_⟩
        simp [compareDigest, hmac, isAscii_hmacOf, hsame, bind, Except.bind]
  · exact .inl ⟨_, _, rfl⟩

/-! The claims of a signed token. -/

def expiredGrant : TokenError := .grant "grant token has expired" "grant-expired"

theorem verifyGrantToken_grant :
    verifyGrantToken F key.bytes (sign key grantTokenVersion (grantMembers claims)) now requireLive =
      if requireLive then do
        let expiry ← fromTokenWorker (parseRfc3339Text claims.expiresAt.val)
        if expiry ≤ now then .error expiredGrant else .ok claims.texts
      else .ok claims.texts := by
  have hverify : verifyToken F key grantTokenVersion
      (sign key grantTokenVersion (grantMembers claims)) = .ok (textMembers (grantMembers claims)) :=
    verifyToken_sign (by decide) sorted_grantMembers
  have hexp : claimText (textMembers (grantMembers claims)) "exp" = some claims.expiresAt.val := rfl
  have hkey : claimText (textMembers (grantMembers claims)) "keyId" = some localKeyId := rfl
  have hrequired : requiredClaims.mapM (requiredClaim (textMembers (grantMembers claims))) =
      .ok (claims.texts.dropLast) := by
    have hclaim : ∀ field (text : NonEmptyText),
        claimText (textMembers (grantMembers claims)) field = some text.val →
        requiredClaim (textMembers (grantMembers claims)) field = .ok (field, text.val) := by
      intro field text htext
      rw [requiredClaim, htext]
      exact if_neg text.property
    refine Fold.mapM_eq_ok.mpr ?_
    exact .cons (hclaim _ claims.grantId rfl) <| .cons (hclaim _ claims.grantEventId rfl) <|
      .cons (hclaim _ claims.workerId rfl) <| .cons (hclaim _ claims.taskId rfl) <|
      .cons (hclaim _ claims.attemptId rfl) <| .cons (hclaim _ claims.runId rfl) <|
      .cons (hclaim _ claims.nonce rfl) <| .cons (hclaim _ ⟨localKeyId, by decide⟩ rfl) <|
      .cons (hclaim _ claims.projectId rfl) <| .cons (hclaim _ claims.imageDigest rfl) <|
      .cons (hclaim _ claims.configDigest rfl) .nil
  rw [verifyGrantToken, requireHmacKey_bytes]
  simp only [bind, Except.bind, hverify, hexp, hkey, hrequired]
  cases requireLive with
  | false => rfl
  | true =>
    simp only [if_true]
    cases fromTokenWorker (parseRfc3339Text claims.expiresAt.val) with
    | error e => rfl
    | ok expiry =>
      by_cases hexpired : expiry ≤ now
      · simp only [if_pos hexpired]
        rfl
      · simp only [if_neg hexpired]
        rfl

theorem verifyGrantToken_session : verifyGrantToken F key.bytes
    (sign key grantTokenVersion (sessionMembers workerId)) now requireLive =
      .error (invalidToken "grant token is missing exp") := by
  have hverify : verifyToken F key grantTokenVersion
      (sign key grantTokenVersion (sessionMembers workerId)) =
        .ok (textMembers (sessionMembers workerId)) :=
    verifyToken_sign (by decide) sorted_sessionMembers
  rw [verifyGrantToken, requireHmacKey_bytes]
  simp only [bind, Except.bind, hverify]
  rfl

theorem verifyWorkerSession_session : verifyWorkerSession F key.bytes
    (sign key workerSessionVersion (sessionMembers workerId)) = .ok workerId.val := by
  have hverify : verifyToken F key workerSessionVersion
      (sign key workerSessionVersion (sessionMembers workerId)) =
        .ok (textMembers (sessionMembers workerId)) :=
    verifyToken_sign (by decide) sorted_sessionMembers
  have hclaim : claimText (textMembers (sessionMembers workerId)) "workerId" = some workerId.val :=
    rfl
  rw [verifyWorkerSession, requireHmacKey_bytes]
  simp only [bind, Except.bind, hverify, hclaim, if_neg workerId.property]
  rfl

/-- The code of a grant token is a code of its worker's session. -/
theorem verifyWorkerSession_grant : verifyWorkerSession F key.bytes
    (sign key workerSessionVersion (grantMembers claims)) = .ok claims.workerId.val := by
  have hverify : verifyToken F key workerSessionVersion
      (sign key workerSessionVersion (grantMembers claims)) =
        .ok (textMembers (grantMembers claims)) :=
    verifyToken_sign (by decide) sorted_grantMembers
  have hclaim : claimText (textMembers (grantMembers claims)) "workerId" =
      some claims.workerId.val := rfl
  rw [verifyWorkerSession, requireHmacKey_bytes]
  simp only [bind, Except.bind, hverify, hclaim, if_neg claims.workerId.property]
  rfl

theorem issueGrantToken_ok : issueGrantToken key.bytes claims = .ok token ↔
    token = sign key grantTokenVersion (grantMembers claims) := by
  simp only [issueGrantToken, requireHmacKey_bytes, bind, Except.bind, pure, Except.pure,
    Except.ok.injEq]
  exact eq_comm

theorem issueWorkerSession_ok : issueWorkerSession key.bytes workerId = .ok token ↔
    token = sign key workerSessionVersion (sessionMembers workerId) := by
  simp only [issueWorkerSession, requireHmacKey_bytes, bind, Except.bind, pure, Except.pure,
    Except.ok.injEq]
  exact eq_comm

theorem grant_ne_session (hversion : '.' ∉ version.toList) :
    sign key version (grantMembers claims) ≠ sign key version (sessionMembers workerId) := by
  intro h
  have hgrant : verifyToken JsonText.scientific key version (sign key version (grantMembers claims)) =
      .ok (textMembers (grantMembers claims)) := verifyToken_sign hversion sorted_grantMembers
  rw [h, verifyToken_sign hversion sorted_sessionMembers] at hgrant
  have hlength := congrArg List.length (Except.ok.inj hgrant)
  exact absurd hlength (show 2 ≠ 13 by decide)

theorem readable_sign (hversion : '.' ∉ version.toList) :
    TokenReadable version (sign key version ms) := by
  intro payload mac hsplit
  rw [splitOn_sign hversion] at hsplit
  cases hsplit
  exact ⟨isAscii_encodePayload, isAscii_hmacOf _⟩

theorem verifyGrantToken_live (h : UtcHolds claims.expiresAt) :
    verifyGrantToken F key.bytes (sign key grantTokenVersion (grantMembers claims)) now true =
      if claims.expiresAt.instant ≤ now then .error expiredGrant else .ok claims.texts := by
  rw [verifyGrantToken_grant, parseRfc3339Text_val, parseRfc3339_of_utcHolds h]
  rfl

theorem verifyGrantToken_overflow (h : ¬ UtcHolds claims.expiresAt) :
    verifyGrantToken F key.bytes (sign key grantTokenVersion (grantMembers claims)) now true =
      .error (.worker .overflow) := by
  rw [verifyGrantToken_grant, parseRfc3339Text_val, parseRfc3339_overflow h]
  rfl

theorem verifyGrantToken_error {e : TokenError}
    (h : verifyToken F key grantTokenVersion token = .error e) :
    verifyGrantToken F key.bytes token now requireLive = .error e := by
  rw [verifyGrantToken, requireHmacKey_bytes]
  simp only [bind, Except.bind, h]

theorem verifyWorkerSession_error {e : TokenError}
    (h : verifyToken F key workerSessionVersion token = .error e) :
    verifyWorkerSession F key.bytes token = .error e := by
  rw [verifyWorkerSession, requireHmacKey_bytes]
  simp only [bind, Except.bind, h]

/-! What the verifications return. -/

/-- The claims of an issued token are returned while it lives, and any other token is refused. -/
def GrantTokenMeets (F : FloatText) (key : HmacKey) (token : String) (now : Instant)
    (requireLive : Bool) : Prop :=
  (∃ claims, issueGrantToken key.bytes claims = .ok token ∧
    (requireLive = true → now < claims.expiresAt.instant) ∧
    verifyGrantToken F key.bytes token now requireLive = .ok claims.texts) ∨
  ((∀ claims, issueGrantToken key.bytes claims = .ok token →
      requireLive = true ∧ claims.expiresAt.instant ≤ now) ∧
    ∃ message code, verifyGrantToken F key.bytes token now requireLive =
      .error (.grant message code))

/-- The worker of an issued session is returned, and any other token is refused. -/
def SessionMeets (F : FloatText) (key : HmacKey) (token : String) : Prop :=
  (∃ workerId, issueWorkerSession key.bytes workerId = .ok token ∧
    verifyWorkerSession F key.bytes token = .ok workerId.val) ∨
  ((∀ workerId, issueWorkerSession key.bytes workerId ≠ .ok token) ∧
    ∃ message code, verifyWorkerSession F key.bytes token = .error (.grant message code))

/-- A refusal without a match is no refusal of an issued token. -/
theorem grantTokenMeets_error {message code : String}
    (h : verifyToken F key grantTokenVersion token = .error (.grant message code)) :
    GrantTokenMeets F key token now requireLive := by
  refine .inr ⟨fun claims hissued => ?_, message, code, verifyGrantToken_error h⟩
  rw [issueGrantToken_ok.mp hissued, verifyToken_sign (by decide) sorted_grantMembers] at h
  cases h

theorem grant_of_grantToken_error {e : TokenError} (h : GrantTokenMeets F key token now requireLive)
    (he : verifyGrantToken F key.bytes token now requireLive = .error e) :
    ∃ message code, e = .grant message code := by
  rcases h with ⟨claims, -, -, hok⟩ | ⟨-, message, code, herror⟩
  · rw [hok] at he
    cases he
  · rw [herror] at he
    cases he
    exact ⟨message, code, rfl⟩

theorem grantTokenMeets_grant
    (h : ∀ claims', sign key grantTokenVersion (grantMembers claims) =
      sign key grantTokenVersion (grantMembers claims') →
        requireLive = true → UtcHolds claims'.expiresAt) :
    GrantTokenMeets F key (sign key grantTokenVersion (grantMembers claims)) now requireLive := by
  cases requireLive with
  | false =>
    refine .inl ⟨claims, issueGrantToken_ok.mpr rfl, fun hlive => absurd hlive (by decide), ?_⟩
    rw [verifyGrantToken_grant]
    rfl
  | true =>
    have hlive : ∀ claims', sign key grantTokenVersion (grantMembers claims) =
        sign key grantTokenVersion (grantMembers claims') →
          verifyGrantToken F key.bytes (sign key grantTokenVersion (grantMembers claims)) now true =
            if claims'.expiresAt.instant ≤ now then .error expiredGrant else .ok claims'.texts := by
      intro claims' hsame
      rw [hsame]
      exact verifyGrantToken_live (h claims' hsame rfl)
    have hclaims := hlive claims rfl
    by_cases hexpired : claims.expiresAt.instant ≤ now
    · rw [if_pos hexpired] at hclaims
      refine .inr ⟨fun claims' hissued => ⟨rfl, ?_⟩, _, _, hclaims⟩
      by_contra hlater
      have hother := hlive claims' (issueGrantToken_ok.mp hissued)
      rw [if_neg hlater, hclaims] at hother
      cases hother
    · rw [if_neg hexpired] at hclaims
      exact .inl ⟨claims, issueGrantToken_ok.mpr rfl, fun _ => not_le.mp hexpired, hclaims⟩

theorem grantTokenMeets_iff (h : Unforged key token) :
    GrantTokenMeets F key token now requireLive ↔ TokenReadable grantTokenVersion token ∧
      (requireLive = true → ∀ claims, issueGrantToken key.bytes claims = .ok token →
        UtcHolds claims.expiresAt) := by
  constructor
  · intro hmeets
    refine ⟨?_, ?_⟩
    · by_contra hread
      rcases @verifyToken_unreadable F key _ _ hread with he | he <;>
        obtain ⟨_, _, hgrant⟩ := grant_of_grantToken_error hmeets (verifyGrantToken_error he) <;>
        cases hgrant
    · rintro rfl claims hissued
      by_contra hexpiry
      obtain rfl := issueGrantToken_ok.mp hissued
      obtain ⟨_, _, hgrant⟩ := grant_of_grantToken_error hmeets (verifyGrantToken_overflow hexpiry)
      cases hgrant
  · rintro ⟨hread, hexpiry⟩
    rcases verifyToken_cases (F := F) h hread with ⟨_, _, he⟩ | ⟨claims, rfl⟩ | ⟨workerId, rfl⟩
    · exact grantTokenMeets_error he
    · exact grantTokenMeets_grant fun claims' hsame hlive =>
        hexpiry hlive claims' (issueGrantToken_ok.mpr hsame)
    · refine .inr ⟨fun claims hissued => ?_, _, _, verifyGrantToken_session⟩
      exact absurd (issueGrantToken_ok.mp hissued).symm (grant_ne_session (by decide))

theorem grant_of_session_error {e : TokenError} (h : SessionMeets F key token)
    (he : verifyWorkerSession F key.bytes token = .error e) :
    ∃ message code, e = .grant message code := by
  rcases h with ⟨workerId, -, hok⟩ | ⟨-, message, code, herror⟩
  · rw [hok] at he
    cases he
  · rw [herror] at he
    cases he
    exact ⟨message, code, rfl⟩

theorem sessionMeets_iff (h : Unforged key token) :
    SessionMeets F key token ↔ TokenReadable workerSessionVersion token ∧
      ∀ claims, token ≠ sign key workerSessionVersion (grantMembers claims) := by
  constructor
  · intro hmeets
    refine ⟨?_, ?_⟩
    · by_contra hread
      rcases @verifyToken_unreadable F key _ _ hread with he | he <;>
        obtain ⟨_, _, hgrant⟩ := grant_of_session_error hmeets (verifyWorkerSession_error he) <;>
        cases hgrant
    · rintro claims rfl
      rcases hmeets with ⟨workerId, hissued, -⟩ | ⟨-, _, _, herror⟩
      · exact grant_ne_session (by decide) (issueWorkerSession_ok.mp hissued)
      · rw [verifyWorkerSession_grant] at herror
        cases herror
  · rintro ⟨hread, hgrant⟩
    rcases verifyToken_cases (F := F) h hread with ⟨_, _, he⟩ | ⟨claims, hsigned⟩ | ⟨workerId, rfl⟩
    · refine .inr ⟨fun workerId hissued => ?_, _, _, verifyWorkerSession_error he⟩
      rw [issueWorkerSession_ok.mp hissued, verifyToken_sign (by decide) sorted_sessionMembers] at he
      cases he
    · exact absurd hsigned (hgrant claims)
    · exact .inl ⟨workerId, issueWorkerSession_ok.mpr rfl, verifyWorkerSession_session⟩

/-- Of a token that is not forged, the verification of a grant returns the claims while it lives and
refuses everything else exactly when no character of its payload and code is beyond ASCII and UTC
can hold the expiry that is read; the verification of a session does so exactly when the same
characters are ASCII and the token is not the code of a grant under the version of a session. -/
theorem token_codec (F : FloatText) (key : HmacKey) (token : String) (h : Unforged key token) :
    (∀ now requireLive, GrantTokenMeets F key token now requireLive ↔
      TokenReadable grantTokenVersion token ∧
        (requireLive = true → ∀ claims, issueGrantToken key.bytes claims = .ok token →
          UtcHolds claims.expiresAt)) ∧
    (SessionMeets F key token ↔ TokenReadable workerSessionVersion token ∧
      ∀ claims, token ≠ sign key workerSessionVersion (grantMembers claims)) :=
  ⟨fun _ _ => grantTokenMeets_iff h, sessionMeets_iff h⟩

def exampleKey : HmacKey := ⟨List.replicate 32 7, rfl⟩

def exampleClaims : IssuedClaims where
  grantId := ⟨"grant.1", by decide⟩
  grantEventId := ⟨"evt.grant.1", by decide⟩
  workerId := ⟨"worker.1", by decide⟩
  taskId := ⟨"task.1", by decide⟩
  attemptId := ⟨"attempt.1", by decide⟩
  runId := ⟨"run.1", by decide⟩
  nonce := ⟨"nonce.1", by decide⟩
  expiresAt := ⟨"2026-01-01T00:00:00Z", .refl true⟩
  projectId := ⟨"project.1", by decide⟩
  imageDigest := ⟨"sha256:0", by decide⟩
  configDigest := ⟨"sha256:1", by decide⟩

/-- A token of signed claims is not forged. -/
theorem unforged_sign (hversion : '.' ∉ version.toList) :
    Unforged key (sign key version (grantMembers claims)) := by
  intro tokenVersion payload hsplit _
  rw [splitOn_sign hversion] at hsplit
  exact .inl ⟨claims, (List.cons.inj (List.cons.inj hsplit).2).1.symm⟩

/-- No code is beyond ASCII, and no payload of a code is. -/
theorem unforged_of_not_ascii {tokenVersion payload mac : List Char}
    (hsplit : token.toList.splitOn '.' = [tokenVersion, payload, mac])
    (h : (isAscii payload && isAscii mac) = false) : Unforged key token := by
  intro other signed hparts hascii
  rw [hsplit] at hparts
  obtain ⟨hpayload, hrest⟩ := List.cons.inj (List.cons.inj hparts).2
  obtain ⟨hmac, -⟩ := List.cons.inj hrest
  rw [hmac, hpayload, hascii, isAscii_hmacOf] at h
  cases h

theorem not_grantTokenMeets {payload mac : List Char}
    (hsplit : token.toList.splitOn '.' = [grantTokenVersion.toList, payload, mac])
    (h : (isAscii payload && isAscii mac) = false) :
    Unforged key token ∧ ¬ GrantTokenMeets F key token now requireLive := by
  have hforged : Unforged key token := unforged_of_not_ascii hsplit h
  refine ⟨hforged, fun hmeets => ?_⟩
  obtain ⟨hpayload, hmac⟩ := ((grantTokenMeets_iff hforged).mp hmeets).1 payload mac hsplit
  rw [hpayload, hmac] at h
  cases h

/-- A token that was just issued. -/
theorem token_codec_issued : ∃ token,
    issueGrantToken exampleKey.bytes exampleClaims = .ok token ∧
      GrantTokenMeets JsonText.scientific exampleKey token 0 false :=
  ⟨_, issueGrantToken_ok.mpr rfl,
    ((token_codec JsonText.scientific exampleKey _ (unforged_sign (by decide))).1 0 false).mpr
      ⟨readable_sign (by decide), fun hlive => absurd hlive (by decide)⟩⟩

/-- A payload beyond ASCII is a `UnicodeEncodeError`, a code beyond ASCII a `TypeError`, and the code
of a grant opens a session of its worker. -/
theorem token_escapes :
    (Unforged exampleKey "rg1.é." ∧
      verifyGrantToken JsonText.scientific exampleKey.bytes "rg1.é." 0 true = .error .unicodeEncode ∧
      ¬ GrantTokenMeets JsonText.scientific exampleKey "rg1.é." 0 true) ∧
    (Unforged exampleKey "rg1..é" ∧
      verifyGrantToken JsonText.scientific exampleKey.bytes "rg1..é" 0 true = .error .type ∧
      ¬ GrantTokenMeets JsonText.scientific exampleKey "rg1..é" 0 true) ∧
    ∃ token, Unforged exampleKey token ∧
      verifyWorkerSession JsonText.scientific exampleKey.bytes token = .ok "worker.1" ∧
      ¬ SessionMeets JsonText.scientific exampleKey token := by
  have hpayload : "rg1.é.".toList.splitOn '.' = [grantTokenVersion.toList, ['é'], []] := by decide
  have hmac : "rg1..é".toList.splitOn '.' = [grantTokenVersion.toList, [], ['é']] := by decide
  obtain ⟨hpayloadForged, hpayloadFails⟩ : Unforged exampleKey "rg1.é." ∧
      ¬ GrantTokenMeets JsonText.scientific exampleKey "rg1.é." 0 true :=
    not_grantTokenMeets hpayload (by decide)
  obtain ⟨hmacForged, hmacFails⟩ : Unforged exampleKey "rg1..é" ∧
      ¬ GrantTokenMeets JsonText.scientific exampleKey "rg1..é" 0 true :=
    not_grantTokenMeets hmac (by decide)
  refine ⟨⟨hpayloadForged, verifyGrantToken_error ?_, hpayloadFails⟩,
    ⟨hmacForged, verifyGrantToken_error ?_, hmacFails⟩,
    sign exampleKey workerSessionVersion (grantMembers exampleClaims), unforged_sign (by decide),
    verifyWorkerSession_grant, fun hmeets => ?_⟩
  · rw [verifyToken, hpayload]
    rfl
  · rw [verifyToken, hmac]
    rfl
  · exact ((sessionMeets_iff (unforged_sign (by decide))).mp hmeets).2 exampleClaims rfl

end ResearchOs.Workers
