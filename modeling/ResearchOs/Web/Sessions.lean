import ResearchOs.Web.Stream

/-! Browser sessions, the checks in front of every route, and the routes of the local API. -/
namespace ResearchOs.Web

structure LocalApiError where
  code : String
  message : String
  status : Nat
  deriving DecidableEq, Repr

/-- How a request ends without an answer: an error of the API, or any other exception. -/
inductive Fault where
  | api (error : LocalApiError)
  | raised
  deriving DecidableEq, Repr

abbrev Checked (α : Type) := Except Fault α

def badRequest {α : Type} (code message : String) : Checked α := .error (.api ⟨code, message, 400⟩)

def forbidden {α : Type} (code message : String) : Checked α := .error (.api ⟨code, message, 403⟩)

def refuse {α : Type} (code message : String) (status : Nat) : Checked α :=
  .error (.api ⟨code, message, status⟩)

/-- `_error`, over the handlers of `wsgi`. -/
def Fault.answer : Fault → LocalApiError
  | .api error => error
  | .raised => ⟨"internal-error", "The request could not be completed.", 500⟩

/-! Sessions. -/

def sessionCookieName : String := "researchos_session"
def csrfHeaderName : String := "X-ResearchOS-CSRF"
def sessionIdleSeconds : Nat := 12 * 60 * 60
def maxSessions : Nat := 8
def unsafeMethods : List String := ["POST", "PUT", "PATCH", "DELETE"]

/-- Times are in nanoseconds. -/
structure BrowserSession where
  token : String
  csrf : String
  createdAt : Int
  deriving DecidableEq

def BrowserSession.document (session : BrowserSession) : Json :=
  .obj [("csrfHeader", .str csrfHeaderName), ("csrfToken", .str session.csrf),
    ("idleTimeoutSeconds", .int sessionIdleSeconds)]

def sessionCookieHeader (session : BrowserSession) : String :=
  sessionCookieName ++ "=" ++ session.token ++ "; Path=/; HttpOnly; SameSite=Strict; Max-Age=" ++
    toString sessionIdleSeconds

/-- `SessionStore`; the table is in the order of insertion. -/
structure SessionStore where
  bootstrap : String
  consumed : Bool
  idleSeconds : Nat
  maxSessions : Nat
  sessions : List (String × BrowserSession)

/-- `hmac.compare_digest` of two texts, which must be ASCII. -/
def compareDigest (a b : String) : Checked Bool :=
  if (a.toList ++ b.toList).all fun c => c.toNat < 128 then .ok (decide (a = b)) else .error .raised

namespace SessionStore

def create (bootstrap : String) (idleSeconds maxSessions : Nat) : SessionStore :=
  ⟨bootstrap, false, idleSeconds, maxSessions, []⟩

/-- The first of the entries that were created first. -/
def oldest : List (String × BrowserSession) → Option (String × BrowserSession)
  | [] => none
  | entry :: table =>
    match oldest table with
    | none => some entry
    | some other => if other.2.createdAt < entry.2.createdAt then some other else some entry

/-- `_evict_locked` -/
def evict (table : List (String × BrowserSession)) : List (String × BrowserSession) :=
  match oldest table with
  | none => table
  | some oldest => table.filter fun entry => entry.1 ≠ oldest.1

/-- `self._sessions[session.token] = session` -/
def store (session : BrowserSession) : List (String × BrowserSession) → List (String × BrowserSession)
  | [] => [(session.token, session)]
  | entry :: table =>
    if entry.1 = session.token then (session.token, session) :: table else entry :: store session table

def exchangeBootstrap (s : SessionStore) (presented : Option String) (minted : BrowserSession) :
    SessionStore × Checked BrowserSession :=
  let secret := presented.getD ""
  if secret = "" then
    (s, badRequest "bootstrap-invalid" "Open the bootstrap URL printed by researchos web serve.")
  else if s.consumed then
    (s, refuse "bootstrap-consumed"
      "The bootstrap secret was already used; restart the server for a new one." 409)
  else
    match compareDigest secret s.bootstrap with
    | .error fault => (s, .error fault)
    | .ok false => (s, forbidden "bootstrap-invalid" "The bootstrap secret is not valid.")
    | .ok true =>
      let kept := if s.maxSessions ≤ s.sessions.length then evict s.sessions else s.sessions
      ({ s with consumed := true, sessions := store minted kept }, .ok minted)

def authenticate (s : SessionStore) (token : Option String) (now : Int) :
    SessionStore × Checked BrowserSession :=
  let presented := token.getD ""
  if presented = "" then
    (s, refuse "session-required" "Open the bootstrap URL printed by researchos web serve." 401)
  else
    match s.sessions.lookup presented with
    | none => (s, refuse "session-expired" "The local session is not valid." 401)
    | some session =>
      if s.idleSeconds * 1000000000 < now - session.createdAt then
        ({ s with sessions := s.sessions.filter fun entry => entry.1 ≠ presented },
          refuse "session-expired" "The local session expired; bootstrap again." 401)
      else (s, .ok session)

def forget (s : SessionStore) (token : String) : SessionStore :=
  { s with sessions := s.sessions.filter fun entry => entry.1 ≠ token }

end SessionStore

/-- `check_csrf` -/
def checkCsrf (session : BrowserSession) (presented : Option String) (method : String) : Checked Unit :=
  if method ∉ unsafeMethods then .ok ()
  else
    let value := presented.getD ""
    if value = "" then forbidden "csrf-invalid" "The CSRF token is missing or does not match."
    else
      match compareDigest value session.csrf with
      | .error fault => .error fault
      | .ok true => .ok ()
      | .ok false => forbidden "csrf-invalid" "The CSRF token is missing or does not match."

/-! Headers. -/

/-- What a request says of itself; the texts of headers are Latin-1. -/
structure Environ where
  requestMethod : Option String
  pathInfo : Option String
  httpHost : Option String
  httpOrigin : Option String
  httpCookie : Option String
  csrf : Option String
  bootstrap : Option String
  deriving DecidableEq, Repr

def Environ.method (environ : Environ) : String := (environ.requestMethod.getD "GET").toUpper

def Environ.path (environ : Environ) : String :=
  if environ.pathInfo.getD "" = "" then "/" else environ.pathInfo.getD ""

def stripQuotes (text : List Char) : List Char :=
  ((text.dropWhile (· = '"')).reverse.dropWhile (· = '"')).reverse

/-- One part of a `Cookie` header. -/
def parseCookie (part : List Char) : Option (String × String) :=
  match part.dropWhile (· ≠ '=') with
  | [] => none
  | _ :: value =>
    let key := strip (String.ofList (part.takeWhile (· ≠ '=')))
    if key = "" then none
    else some (key, String.ofList (stripQuotes (strip (String.ofList value)).toList))

/-- `parse_cookies`, read by its first entry for a name. -/
def parseCookies (header : Option String) : List (String × String) :=
  ((header.getD "").toList.splitOn ';').filterMap parseCookie

def Environ.sessionToken (environ : Environ) : Option String :=
  (parseCookies environ.httpCookie).lookup sessionCookieName

structure LocalApi where
  allowedHosts : List String
  allowedOrigin : String
  maxConcurrentRequests : Nat

def checkHost (api : LocalApi) (environ : Environ) : Checked Unit :=
  if (environ.httpHost.getD "").toLower ∈ api.allowedHosts then .ok ()
  else forbidden "host-forbidden"
    "Requests must use the exact local origin that started this server."

def checkOrigin (api : LocalApi) (environ : Environ) (method : String) : Checked Unit :=
  if method ∉ unsafeMethods then .ok ()
  else if environ.httpOrigin.getD "" = "" then
    forbidden "origin-forbidden" "Unsafe requests must send an explicit Origin header."
  else if environ.httpOrigin.getD "" ≠ api.allowedOrigin then
    forbidden "origin-forbidden" "Cross-origin requests are not accepted."
  else .ok ()

/-! Routes. -/

def apiPrefix : String := "/api/v0alpha1"

def providers : List String := ["openai", "claude"]

/-- What a request with a session is for. -/
inductive Effect where
  | refresh (provider : String)
  | observations
  | listTasks
  | replyOrAsk
  | readMap
  | writeMap
  | stream
  | command
  | preview
  | read (route : String)
  deriving DecidableEq, Repr

/-- The effects that write to the workspace. -/
def Effect.writes : Effect → Bool
  | .refresh _ | .replyOrAsk | .writeMap | .command => true
  | _ => false

def methodNotAllowed {α : Type} (message : String) : Checked α :=
  refuse "method-not-allowed" message 405

/-- The routes behind the session. -/
def effectOf (route method : String) : Checked Effect :=
  match providers.find? fun provider => route = "/dashboard/providers/" ++ provider ++ "/refresh" with
  | some provider =>
    if method ≠ "POST" then methodNotAllowed "Refresh official status with POST."
    else .ok (.refresh provider)
  | none =>
    if route = "/dashboard/observations" then
      if method ≠ "GET" then
        methodNotAllowed "Import observations through the local collector CLI."
      else .ok .observations
    else if route = "/dashboard/agents" then
      if method = "GET" then .ok .listTasks
      else if method = "POST" then .ok .replyOrAsk
      else methodNotAllowed "Use GET or POST for Agent requests."
    else if route = "/dashboard" then
      if method = "GET" then .ok .readMap
      else if method = "POST" then .ok .writeMap
      else methodNotAllowed "Use GET or POST for maps."
    else if route = "/stream" then
      if method ≠ "GET" then methodNotAllowed "Stream with GET." else .ok .stream
    else if route = "/commands" then
      if method ≠ "POST" then methodNotAllowed "Submit a command with POST." else .ok .command
    else if route = "/preview/document" then
      if method ≠ "POST" then methodNotAllowed "Preview a document with POST." else .ok .preview
    else if method ≠ "GET" then
      methodNotAllowed
        "The R09 local API is read-only; mutating browser commands arrive with R11."
    else .ok (.read route)

/-- What the checks let through. -/
inductive Admission where
  | health
  | asset (path : String)
  | created (session : BrowserSession)
  | forgotten (token : Option String)
  | shown (session : BrowserSession)
  | route (session : BrowserSession) (effect : Effect)
  deriving DecidableEq

/-- `_session` -/
def sessionRoute (environ : Environ) (method : String) (now : Int) (minted : BrowserSession)
    (s : SessionStore) : SessionStore × Checked Admission :=
  if method = "POST" then
    let exchanged := s.exchangeBootstrap environ.bootstrap minted
    (exchanged.1, exchanged.2.map .created)
  else if method = "DELETE" then
    match environ.sessionToken with
    | none => (s, .ok (.forgotten none))
    | some token =>
      if token = "" then (s, .ok (.forgotten none)) else (s.forget token, .ok (.forgotten (some token)))
  else if method ≠ "GET" then (s, methodNotAllowed "Use POST or DELETE for sessions.")
  else
    let found := s.authenticate environ.sessionToken now
    (found.1, found.2.map .shown)

/-- `_dispatch`, up to what a request with a session is for. -/
def dispatch (api : LocalApi) (environ : Environ) (now : Int) (minted : BrowserSession)
    (s : SessionStore) : SessionStore × Checked Admission :=
  match checkHost api environ with
  | .error fault => (s, .error fault)
  | .ok () =>
    if environ.path = "/api/health" ∧ environ.method = "GET" then (s, .ok .health)
    else if ¬ apiPrefix.toList <+: environ.path.toList then
      if environ.method ∈ ["GET", "HEAD"] then (s, .ok (.asset environ.path))
      else (s, methodNotAllowed "The workbench bundle is read-only.")
    else
      match checkOrigin api environ environ.method with
      | .error fault => (s, .error fault)
      | .ok () =>
        let route := String.ofList (environ.path.toList.drop apiPrefix.length)
        if route = "/session" then sessionRoute environ environ.method now minted s
        else
          let found := s.authenticate environ.sessionToken now
          match found.2 with
          | .error fault => (found.1, .error fault)
          | .ok session =>
            match checkCsrf session environ.csrf environ.method with
            | .error fault => (found.1, .error fault)
            | .ok () => (found.1, (effectOf route environ.method).map (.route session))

/-! What the checks have seen of a request that they let through. -/

variable {api : LocalApi} {environ : Environ} {now : Int} {minted session : BrowserSession}
  {s t : SessionStore} {effect : Effect} {method : String}

/-- A request of an unsafe method comes from the page itself. -/
structure FromPage (api : LocalApi) (environ : Environ) : Prop where
  host : (environ.httpHost.getD "").toLower ∈ api.allowedHosts
  origin : environ.method ∈ unsafeMethods → environ.httpOrigin = some api.allowedOrigin

/-- The request has the session, which has not run out, and for an unsafe method its token. -/
structure Passed (api : LocalApi) (idleSeconds : Nat) (environ : Environ) (session : BrowserSession)
    (effect : Effect) (now : Int) : Prop where
  page : FromPage api environ
  cookie : environ.sessionToken = some session.token
  age : now - session.createdAt ≤ idleSeconds * 1000000000
  csrf : environ.method ∈ unsafeMethods → environ.csrf = some session.csrf
  writes : effect.writes = true → environ.method ∈ unsafeMethods

theorem compareDigest_ok {a b : String} (h : compareDigest a b = .ok true) : a = b := by
  unfold compareDigest at h
  split_ifs at h
  cases hsame : decide (a = b) with
  | true => exact of_decide_eq_true hsame
  | false =>
    rw [hsame] at h
    cases h

theorem eq_some_of_getD {value : Option String} {text : String} (h : value.getD "" = text)
    (hne : text ≠ "") : value = some text := by
  cases value with
  | none => exact absurd h.symm hne
  | some found => exact congrArg some h

theorem checkHost_ok (h : checkHost api environ = .ok ()) :
    (environ.httpHost.getD "").toLower ∈ api.allowedHosts := by
  unfold checkHost at h
  split_ifs at h with hhost
  · exact hhost
  · cases h

theorem checkOrigin_ok (h : checkOrigin api environ method = .ok ()) (hguarded : method ∈ unsafeMethods) :
    environ.httpOrigin = some api.allowedOrigin := by
  unfold checkOrigin at h
  rw [if_neg (not_not_intro hguarded)] at h
  split_ifs at h with hempty hother
  · cases h
  · cases h
  · rw [not_not] at hother
    exact eq_some_of_getD hother (hother ▸ hempty)

theorem checkCsrf_ok {presented : Option String} (h : checkCsrf session presented method = .ok ())
    (hguarded : method ∈ unsafeMethods) : presented = some session.csrf := by
  unfold checkCsrf at h
  rw [if_neg (not_not_intro hguarded)] at h
  simp only at h
  split_ifs at h with hempty
  · cases h
  · split at h
    · cases h
    · rename_i hsame
      have heq := compareDigest_ok hsame
      exact eq_some_of_getD heq (heq ▸ hempty)
    · cases h

/-- Only a `POST` writes. -/
theorem method_of_writes {route : String} (h : effectOf route method = .ok effect)
    (hwrites : effect.writes = true) : method = "POST" := by
  unfold effectOf at h
  split at h
  · split_ifs at h with hmethod
    · cases h
    · exact not_not.mp hmethod
  · split_ifs at h
    all_goals cases h
    -- The routes that are left write nothing, or have asked for the method.
    all_goals first
      | assumption
      | exact not_not.mp ‹_›
      | cases hwrites

/-! What one dispatch does to the table. -/

theorem exchangeBootstrap_ok {presented : Option String} {answered : BrowserSession}
    (h : s.exchangeBootstrap presented minted = (t, .ok answered)) :
    answered = minted ∧ s.consumed = false ∧ presented = some s.bootstrap ∧
      ∃ kept, kept.Sublist s.sessions ∧
        t = { s with consumed := true, sessions := SessionStore.store minted kept } := by
  have hkept : (if s.maxSessions ≤ s.sessions.length then SessionStore.evict s.sessions
      else s.sessions).Sublist s.sessions := by
    by_cases hfull : s.maxSessions ≤ s.sessions.length
    · rw [if_pos hfull, SessionStore.evict]
      split
      · exact List.Sublist.refl _
      · exact List.filter_sublist
    · rw [if_neg hfull]
  unfold SessionStore.exchangeBootstrap at h
  generalize (if s.maxSessions ≤ s.sessions.length then SessionStore.evict s.sessions
    else s.sessions) = kept at h hkept
  simp only at h
  split_ifs at h with hempty hconsumed
  · cases h
  · cases h
  · split at h
    · cases h
    · cases h
    · rename_i hsame
      have heq := compareDigest_ok hsame
      rw [Prod.mk.injEq, Except.ok.injEq] at h
      obtain ⟨rfl, rfl⟩ := h
      exact ⟨rfl, by simpa using hconsumed, eq_some_of_getD heq (heq ▸ hempty), kept, hkept, rfl⟩

theorem exchangeBootstrap_error {presented : Option String} {fault : Fault}
    (h : s.exchangeBootstrap presented minted = (t, .error fault)) : t = s := by
  unfold SessionStore.exchangeBootstrap at h
  simp only at h
  split_ifs at h
  · exact (Prod.mk.inj h).1.symm
  · exact (Prod.mk.inj h).1.symm
  all_goals
    split at h
    · exact (Prod.mk.inj h).1.symm
    · exact (Prod.mk.inj h).1.symm
    · cases (Prod.mk.inj h).2

theorem authenticate_ok {token : Option String} (h : s.authenticate token now = (t, .ok session)) :
    t = s ∧ ∃ presented, token = some presented ∧ (presented, session) ∈ s.sessions ∧
      now - session.createdAt ≤ s.idleSeconds * 1000000000 := by
  unfold SessionStore.authenticate at h
  simp only at h
  split_ifs at h with hempty
  · cases h
  · split at h
    · cases h
    · rename_i found hfound
      split_ifs at h with hold
      · cases h
      · rw [Prod.mk.injEq, Except.ok.injEq] at h
        obtain ⟨rfl, rfl⟩ := h
        obtain ⟨presented, rfl⟩ : ∃ presented, token = some presented := by
          cases token with
          | none => exact absurd rfl hempty
          | some presented => exact ⟨presented, rfl⟩
        obtain ⟨before, after, hsplit, -⟩ := List.lookup_eq_some_iff.mp hfound
        refine ⟨rfl, presented, rfl, ?_, not_lt.mp hold⟩
        rw [hsplit]
        exact List.mem_append_right before List.mem_cons_self

theorem authenticate_error {token : Option String} {fault : Fault}
    (h : s.authenticate token now = (t, .error fault)) :
    ∃ kept, kept.Sublist s.sessions ∧ t = { s with sessions := kept } := by
  unfold SessionStore.authenticate at h
  simp only at h
  split_ifs at h
  · exact ⟨s.sessions, List.Sublist.refl _, (Prod.mk.inj h).1.symm⟩
  · split at h
    · exact ⟨s.sessions, List.Sublist.refl _, (Prod.mk.inj h).1.symm⟩
    · split_ifs at h
      · exact ⟨_, List.filter_sublist, (Prod.mk.inj h).1.symm⟩
      · cases (Prod.mk.inj h).2

end ResearchOs.Web
