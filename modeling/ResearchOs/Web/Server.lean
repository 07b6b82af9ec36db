import ResearchOs.Web.Sessions

/-! The local API under concurrent requests: slots of the gate, one session, and who may write. -/
namespace ResearchOs.Web

inductive Phase where
  /-- The request holds a slot. -/
  | entered
  /-- The checks have let it through. -/
  | admitted (admission : Admission)
  /-- The slot is kept until the stream is closed. -/
  | streaming
  | done
  deriving DecidableEq

def Phase.holds : Phase → Bool
  | .done => false
  | _ => true

/-- What has happened, in order. -/
inductive Occurrence where
  | minted (i : Nat) (session : BrowserSession)
  | forgotten (token : String)
  | admitted (i : Nat) (session : BrowserSession) (effect : Effect) (now : Int)
  | performed (i : Nat) (effect : Effect)
  deriving DecidableEq

def Occurrence.isMinted : Occurrence → Bool
  | .minted _ _ => true
  | _ => false

structure Server where
  sessions : SessionStore
  active : Int
  threads : List (Environ × Phase)
  occurred : List Occurrence

/-- How a route ends: before it has done anything, after it, or as a stream that cannot be started. -/
inductive Outcome where
  | refused
  | performed
  | startFails
  deriving DecidableEq, Repr

inductive ServerAction where
  | arrive (environ : Environ)
  | dispatch (i : Nat) (now : Int) (token csrf : String)
  | serve (i : Nat) (outcome : Outcome)
  | next (i : Nat) (ends : Bool)
  | close (i : Nat)
  deriving DecidableEq, Repr

def Admission.occurrences (i : Nat) (now : Int) : Admission → List Occurrence
  | .created session => [.minted i session]
  | .forgotten (some token) => [.forgotten token]
  | .route session effect => [.admitted i session effect now]
  | _ => []

/-! What a dispatch may do. -/

section

variable {api : LocalApi} {environ : Environ} {now : Int} {minted : BrowserSession}
  {s t : SessionStore} {answer : Checked Admission}

inductive Dispatched (api : LocalApi) (environ : Environ) (now : Int) (minted : BrowserSession)
    (s t : SessionStore) : Checked Admission → Prop where
  | created (kept : List (String × BrowserSession)) (hpage : FromPage api environ)
      (hmethod : environ.method = "POST") (hsecret : environ.bootstrap = some s.bootstrap)
      (hfresh : s.consumed = false) (hkept : kept.Sublist s.sessions)
      (h : t = { s with consumed := true, sessions := SessionStore.store minted kept }) :
      Dispatched api environ now minted s t (.ok (.created minted))
  | forgotten (token : String) (h : t = s.forget token) :
      Dispatched api environ now minted s t (.ok (.forgotten (some token)))
  | route (session : BrowserSession) (effect : Effect) (token : String)
      (hmem : (token, session) ∈ s.sessions) (hcookie : environ.sessionToken = some token)
      (hpassed : token = session.token → Passed api s.idleSeconds environ session effect now)
      (h : t = s) :
      Dispatched api environ now minted s t (.ok (.route session effect))
  | quiet (kept : List (String × BrowserSession)) (answer : Checked Admission)
      (hkept : kept.Sublist s.sessions) (h : t = { s with sessions := kept })
      (hanswer : ∀ admission, answer = .ok admission → ∀ i now, admission.occurrences i now = []) :
      Dispatched api environ now minted s t answer

theorem Dispatched.same {fault : Fault} : Dispatched api environ now minted s s (.error fault) :=
  .quiet s.sessions _ (List.Sublist.refl _) rfl nofun

/-- An answer that needs no session. -/
theorem Dispatched.silent {admission : Admission} (h : ∀ i now, admission.occurrences i now = []) :
    Dispatched api environ now minted s s (.ok admission) := by
  refine .quiet s.sessions _ (List.Sublist.refl _) rfl ?_
  intro found hfound
  cases hfound
  exact h

theorem dispatched_session (hpage : FromPage api environ)
    (h : sessionRoute environ environ.method now minted s = (t, answer)) :
    Dispatched api environ now minted s t answer := by
  unfold sessionRoute at h
  split_ifs at h with hpost hdelete hget
  · obtain ⟨rfl, rfl⟩ := Prod.mk.inj h
    cases hexchange : s.exchangeBootstrap environ.bootstrap minted with
    | mk t found =>
      cases found with
      | error fault =>
        rw [exchangeBootstrap_error hexchange]
        exact .same
      | ok answered =>
        obtain ⟨rfl, hfresh, hsecret, kept, hkept, rfl⟩ := exchangeBootstrap_ok hexchange
        exact .created kept hpage hpost hsecret hfresh hkept rfl
  · split at h
    · obtain ⟨rfl, rfl⟩ := Prod.mk.inj h
      exact .silent fun _ _ => rfl
    · rename_i token _
      split_ifs at h
      · obtain ⟨rfl, rfl⟩ := Prod.mk.inj h
        exact .silent fun _ _ => rfl
      · obtain ⟨rfl, rfl⟩ := Prod.mk.inj h
        exact .forgotten token rfl
  · obtain ⟨rfl, rfl⟩ := Prod.mk.inj h
    exact .same
  · obtain ⟨rfl, rfl⟩ := Prod.mk.inj h
    cases hfound : s.authenticate environ.sessionToken now with
    | mk t found =>
      cases found with
      | error fault =>
        obtain ⟨kept, hkept, rfl⟩ := authenticate_error hfound
        exact .quiet kept _ hkept rfl nofun
      | ok session =>
        obtain ⟨rfl, -⟩ := authenticate_ok hfound
        exact .silent fun _ _ => rfl

/-- Behind the session. -/
theorem dispatched_route {route : String} (hpage : FromPage api environ)
    (h : (match (s.authenticate environ.sessionToken now).2 with
      | .error fault => ((s.authenticate environ.sessionToken now).1, .error fault)
      | .ok session =>
        match checkCsrf session environ.csrf environ.method with
        | .error fault => ((s.authenticate environ.sessionToken now).1, .error fault)
        | .ok () => ((s.authenticate environ.sessionToken now).1,
          (effectOf route environ.method).map (.route session))) = (t, answer)) :
    Dispatched api environ now minted s t answer := by
  cases hfound : s.authenticate environ.sessionToken now with
  | mk u found =>
    rw [hfound] at h
    cases found with
    | error fault =>
      obtain ⟨rfl, rfl⟩ := Prod.mk.inj h
      obtain ⟨kept, hkept, rfl⟩ := authenticate_error hfound
      exact .quiet kept _ hkept rfl nofun
    | ok session =>
      obtain ⟨rfl, token, hcookie, hmem, hage⟩ := authenticate_ok hfound
      cases hcsrf : checkCsrf session environ.csrf environ.method with
      | error fault =>
        simp only [hcsrf] at h
        obtain ⟨rfl, rfl⟩ := Prod.mk.inj h
        exact .same
      | ok _ =>
        simp only [hcsrf] at h
        obtain ⟨rfl, rfl⟩ := Prod.mk.inj h
        cases heffect : effectOf route environ.method with
        | error fault => exact .same
        | ok effect =>
          refine .route session effect token hmem hcookie (fun hkey => ?_) rfl
          refine ⟨hpage, hkey ▸ hcookie, hage, fun hguarded => checkCsrf_ok hcsrf hguarded, ?_⟩
          intro hwrites
          rw [method_of_writes heffect hwrites]
          decide

theorem dispatched_dispatch (h : dispatch api environ now minted s = (t, answer)) :
    Dispatched api environ now minted s t answer := by
  unfold dispatch at h
  split at h
  · obtain ⟨rfl, rfl⟩ := Prod.mk.inj h
    exact .same
  · rename_i hhost
    split_ifs at h with hhealth hprefix hread
    · obtain ⟨rfl, rfl⟩ := Prod.mk.inj h
      exact .silent fun _ _ => rfl
    · split at h
      · obtain ⟨rfl, rfl⟩ := Prod.mk.inj h
        exact .same
      · rename_i horigin
        have hpage : FromPage api environ :=
          ⟨checkHost_ok hhost, fun hguarded => checkOrigin_ok horigin hguarded⟩
        simp only at h
        split_ifs at h with hsession
        · exact dispatched_session hpage h
        · exact dispatched_route hpage h
    · obtain ⟨rfl, rfl⟩ := Prod.mk.inj h
      exact .silent fun _ _ => rfl
    · obtain ⟨rfl, rfl⟩ := Prod.mk.inj h
      exact .same

end

namespace Server

def start (sessions : SessionStore) : Server := ⟨sessions, 0, [], []⟩

def move (s : Server) (i : Nat) (environ : Environ) (phase : Phase) : Server :=
  { s with threads := s.threads.set i (environ, phase) }

/-- `ConcurrencyGate.__exit__`; the request is over. -/
def release (s : Server) (i : Nat) (environ : Environ) : Server :=
  { s.move i environ .done with active := s.active - 1 }

/-- What a route does once it is let through; only a stream keeps its slot. -/
def serve (s : Server) (i : Nat) (environ : Environ) : Admission → Outcome → Server
  | .route _ .stream, .performed =>
    { s.move i environ .streaming with occurred := s.occurred ++ [.performed i .stream] }
  | .route _ effect, .performed =>
    { s.release i environ with occurred := s.occurred ++ [.performed i effect] }
  | _, _ => s.release i environ

def step (api : LocalApi) (s : Server) : ServerAction → Server
  | .arrive environ =>
    if api.maxConcurrentRequests ≤ s.active then
      { s with threads := s.threads ++ [(environ, .done)] }
    else { s with active := s.active + 1, threads := s.threads ++ [(environ, .entered)] }
  | .dispatch i now token csrf =>
    match s.threads[i]? with
    | some (environ, .entered) =>
      let dispatched := Web.dispatch api environ now ⟨token, csrf, now⟩ s.sessions
      match dispatched.2 with
      | .error _ => { s.release i environ with sessions := dispatched.1 }
      | .ok admission =>
        { s.move i environ (.admitted admission) with
          sessions := dispatched.1
          occurred := s.occurred ++ admission.occurrences i now }
    | _ => s
  | .serve i outcome =>
    match s.threads[i]? with
    | some (environ, .admitted admission) => s.serve i environ admission outcome
    | _ => s
  | .next i ends =>
    match s.threads[i]? with
    | some (environ, .streaming) => if ends then s.release i environ else s
    | _ => s
  | .close i =>
    match s.threads[i]? with
    | some (environ, .streaming) => s.release i environ
    | _ => s

def run (api : LocalApi) (s : Server) (actions : List ServerAction) : Server :=
  actions.foldl (step api) s

/-- How many requests hold a slot. -/
def inFlight (s : Server) : Nat := s.threads.countP fun thread => thread.2.holds

/-! Ways of one step. -/

/-- What a step may do. -/
inductive Moves (api : LocalApi) (s t : Server) : Prop where
  | same (h : t = s)
  | refused (environ : Environ) (hfull : api.maxConcurrentRequests ≤ s.active)
      (h : t = { s with threads := s.threads ++ [(environ, .done)] })
  | entered (environ : Environ) (hfree : s.active < api.maxConcurrentRequests)
      (h : t = { s with active := s.active + 1, threads := s.threads ++ [(environ, .entered)] })
  | failed (i : Nat) (environ : Environ) (sessions : SessionStore) (now : Int) (minted : BrowserSession)
      (fault : Fault) (hi : s.threads[i]? = some (environ, .entered))
      (hdispatch : dispatch api environ now minted s.sessions = (sessions, .error fault))
      (h : t = { s.release i environ with sessions := sessions })
  | admitted (i : Nat) (environ : Environ) (sessions : SessionStore) (now : Int)
      (minted : BrowserSession) (admission : Admission)
      (hi : s.threads[i]? = some (environ, .entered))
      (hdispatch : dispatch api environ now minted s.sessions = (sessions, .ok admission))
      (h : t = { s.move i environ (.admitted admission) with
        sessions := sessions
        occurred := s.occurred ++ admission.occurrences i now })
  | performed (i : Nat) (environ : Environ) (session : BrowserSession) (effect : Effect) (phase : Phase)
      (active : Int) (hi : s.threads[i]? = some (environ, .admitted (.route session effect)))
      (hphase : phase = .streaming ∧ active = s.active ∨ phase = .done ∧ active = s.active - 1)
      (h : t = { s.move i environ phase with
        active := active
        occurred := s.occurred ++ [.performed i effect] })
  | released (i : Nat) (environ : Environ) (phase : Phase) (hi : s.threads[i]? = some (environ, phase))
      (hholds : phase.holds = true) (h : t = s.release i environ)

theorem moves_serve {api : LocalApi} {s : Server} {i : Nat} {environ : Environ} {admission : Admission}
    (outcome : Outcome) (hi : s.threads[i]? = some (environ, .admitted admission)) :
    Moves api s (s.serve i environ admission outcome) := by
  have hrelease : Moves api s (s.release i environ) := .released i environ _ hi rfl rfl
  unfold serve
  split
  · exact .performed i environ _ .stream .streaming s.active hi (.inl ⟨rfl, rfl⟩) rfl
  · exact .performed i environ _ _ .done (s.active - 1) hi (.inr ⟨rfl, rfl⟩) rfl
  · exact hrelease

theorem moves_step (api : LocalApi) (s : Server) (action : ServerAction) :
    Moves api s (s.step api action) := by
  cases action with
  | arrive environ =>
    simp only [step]
    by_cases hfull : (api.maxConcurrentRequests : Int) ≤ s.active
    · rw [if_pos hfull]
      exact .refused environ hfull rfl
    · rw [if_neg hfull]
      exact .entered environ (not_le.mp hfull) rfl
  | dispatch i now token csrf =>
    simp only [step]
    split
    · rename_i environ hi
      cases hanswer : dispatch api environ now ⟨token, csrf, now⟩ s.sessions with
      | mk sessions answer =>
        cases answer with
        | error fault => exact .failed i environ sessions now _ fault hi hanswer rfl
        | ok admission => exact .admitted i environ sessions now _ admission hi hanswer rfl
    · exact .same rfl
  | serve i outcome =>
    simp only [step]
    split
    · rename_i environ admission hi
      exact moves_serve outcome hi
    · exact .same rfl
  | next i ends =>
    simp only [step]
    split
    · rename_i environ hi
      cases ends with
      | true => exact .released i environ _ hi rfl rfl
      | false => exact .same rfl
    · exact .same rfl
  | close i =>
    simp only [step]
    split
    · rename_i environ hi
      exact .released i environ _ hi rfl rfl
    · exact .same rfl

theorem run_concat (api : LocalApi) (s : Server) (actions : List ServerAction) (action : ServerAction) :
    s.run api (actions ++ [action]) = (s.run api actions).step api action := by
  rw [run, List.foldl_append]
  rfl

variable {api : LocalApi} {s t : Server} {i : Nat} {environ : Environ} {phase phase' : Phase}

/-! The gate. -/

theorem inFlight_move (phase' : Phase) (hi : s.threads[i]? = some (environ, phase))
    (hholds : phase.holds = true) :
    (s.move i environ phase').inFlight + 1 = s.inFlight + if phase'.holds then 1 else 0 := by
  obtain ⟨hlt, hget⟩ := List.getElem?_eq_some_iff.mp hi
  have hpositive : 0 < s.inFlight :=
    List.countP_pos_iff.mpr ⟨(environ, phase), List.mem_of_getElem? hi, hholds⟩
  have hset : (s.move i environ phase').inFlight =
      s.inFlight - 1 + if phase'.holds then 1 else 0 := by
    rw [inFlight, move, List.countP_set hlt, hget]
    simp only [hholds, if_true]
    rfl
  omega

theorem inFlight_append (s : Server) (environ : Environ) (phase : Phase) (active : Int) :
    inFlight { s with active := active, threads := s.threads ++ [(environ, phase)] } =
      s.inFlight + if phase.holds then 1 else 0 := by
  rw [inFlight, List.countP_append, List.countP_singleton]
  rfl

/-- The counter counts the requests that hold a slot. -/
structure Gated (api : LocalApi) (s : Server) : Prop where
  counts : s.active = s.inFlight
  bound : s.inFlight ≤ api.maxConcurrentRequests

theorem Gated.release (h : Gated api s) (hi : s.threads[i]? = some (environ, phase))
    (hholds : phase.holds = true) (sessions : SessionStore) (occurred : List Occurrence) :
    Gated api { s.release i environ with sessions := sessions, occurred := occurred } := by
  have hmove := inFlight_move .done hi hholds
  have hinFlight : inFlight { s.release i environ with sessions := sessions, occurred := occurred } =
      (s.move i environ .done).inFlight := rfl
  have hactive : (s.release i environ).active = s.active - 1 := rfl
  have hdone : Phase.done.holds = false := rfl
  simp only [hdone, Bool.false_eq_true, if_false] at hmove
  obtain ⟨hcounts, hbound⟩ := h
  constructor
  · rw [hinFlight]
    simp only [hactive, hcounts]
    omega
  · rw [hinFlight]
    omega

theorem Gated.keep (h : Gated api s) (hi : s.threads[i]? = some (environ, phase))
    (hholds : phase.holds = true) (hholds' : phase'.holds = true) (sessions : SessionStore)
    (occurred : List Occurrence) :
    Gated api { s.move i environ phase' with sessions := sessions, occurred := occurred } := by
  have hmove := inFlight_move phase' hi hholds
  have hinFlight : inFlight { s.move i environ phase' with
      sessions := sessions, occurred := occurred } = (s.move i environ phase').inFlight := rfl
  rw [hholds', if_pos rfl] at hmove
  obtain ⟨hcounts, hbound⟩ := h
  constructor
  · rw [hinFlight]
    have hactive : (s.move i environ phase').active = s.active := rfl
    simp only [hactive, hcounts]
    omega
  · rw [hinFlight]
    omega

theorem Gated.moves (h : Gated api s) (hmoves : Moves api s t) : Gated api t := by
  cases hmoves with
  | same ht =>
    subst ht
    exact h
  | refused environ hfull ht =>
    subst ht
    have happend := inFlight_append s environ .done s.active
    constructor
    · rw [happend]
      exact h.counts
    · rw [happend]
      exact h.bound
  | entered environ hfree ht =>
    subst ht
    have happend := inFlight_append s environ .entered (s.active + 1)
    have hholds : Phase.entered.holds = true := rfl
    rw [hholds, if_pos rfl] at happend
    obtain ⟨hcounts, hbound⟩ := h
    constructor
    · rw [happend]
      change s.active + 1 = _
      omega
    · rw [happend]
      omega
  | failed i environ sessions now minted fault hi hdispatch ht =>
    subst ht
    exact h.release hi rfl sessions s.occurred
  | admitted i environ sessions now minted admission hi hdispatch ht =>
    subst ht
    exact h.keep hi rfl rfl sessions _
  | performed i environ session effect phase active hi hphase ht =>
    subst ht
    rcases hphase with ⟨rfl, rfl⟩ | ⟨rfl, rfl⟩
    · exact h.keep hi rfl rfl s.sessions _
    · exact h.release hi rfl s.sessions _
  | released i environ phase hi hholds ht =>
    subst ht
    exact h.release hi hholds s.sessions s.occurred

theorem gated_run (api : LocalApi) (sessions : SessionStore) (actions : List ServerAction) :
    Gated api ((start sessions).run api actions) := by
  induction actions using List.reverseRecOn with
  | nil => exact ⟨rfl, Nat.zero_le _⟩
  | append_singleton actions action ih =>
    rw [run_concat]
    exact ih.moves (moves_step api _ action)

/-- However requests are interleaved, fail, stream and are closed, the counter of the gate is the
number of requests in flight, streams that are still open among them, and never above the maximum.
A request is let in if and only if a slot is free. -/
theorem gate_counts (api : LocalApi) (sessions : SessionStore) (actions : List ServerAction) :
    let s := (start sessions).run api actions
    s.active = s.inFlight ∧ s.inFlight ≤ api.maxConcurrentRequests ∧
      ∀ environ, (s.step api (.arrive environ)).threads = s.threads ++
        [(environ, if s.inFlight < api.maxConcurrentRequests then .entered else .done)] := by
  have hgated := gated_run api sessions actions
  refine ⟨hgated.counts, hgated.bound, fun environ => ?_⟩
  simp only [step, hgated.counts, Nat.cast_le]
  by_cases hfree : ((start sessions).run api actions).inFlight < api.maxConcurrentRequests
  · rw [if_neg (not_le.mpr hfree), if_pos hfree]
  · rw [if_pos (not_lt.mp hfree), if_neg hfree]

/-! One session, and what it lets through. -/

/-- Who was given the session: the one request that has presented the secret. -/
structure Minted (api : LocalApi) (secret : String) (s : Server) (j : Nat) : Prop where
  request : ∃ environ phase, s.threads[j]? = some (environ, phase) ∧ FromPage api environ ∧
    environ.method = "POST" ∧ environ.bootstrap = some secret

/-- The session has been given out at a place, and nobody has forgotten it from there up to `k`. -/
def LiveAt (occurred : List Occurrence) (session : BrowserSession) (k : Nat) : Prop :=
  ∃ m j, m < k ∧ occurred[m]? = some (.minted j session) ∧
    ∀ n, m < n → n < k → occurred[n]? ≠ some (.forgotten session.token)

structure Trusted (api : LocalApi) (secret : String) (idleSeconds : Nat) (s : Server) : Prop where
  bootstrap : s.sessions.bootstrap = secret
  idle : s.sessions.idleSeconds = idleSeconds
  table : ∀ entry ∈ s.sessions.sessions, entry.1 = entry.2.token ∧
    LiveAt s.occurred entry.2 s.occurred.length
  fresh : s.sessions.consumed = false →
    s.sessions.sessions = [] ∧ s.occurred.countP Occurrence.isMinted = 0
  once : s.occurred.countP Occurrence.isMinted ≤ 1
  minted : ∀ j session, Occurrence.minted j session ∈ s.occurred → Minted api secret s j
  admitted : ∀ (k i : Nat) session effect now,
    s.occurred[k]? = some (.admitted i session effect now) → LiveAt s.occurred session k ∧
      ∃ environ phase, s.threads[i]? = some (environ, phase) ∧
        Passed api idleSeconds environ session effect now
  waiting : ∀ (i : Nat) environ session effect,
    s.threads[i]? = some (environ, .admitted (.route session effect)) →
      ∃ (k : Nat) (now : Int), s.occurred[k]? = some (.admitted i session effect now)
  performed : ∀ (k i : Nat) effect, s.occurred[k]? = some (.performed i effect) →
    ∃ (k' : Nat) (session : BrowserSession) (now : Int),
      k' < k ∧ s.occurred[k']? = some (.admitted i session effect now)

/-- What a step adds to a trusted server. -/
structure Adds (api : LocalApi) (secret : String) (idleSeconds : Nat) (s t : Server)
    (added : Option Occurrence) : Prop where
  occurred : t.occurred = s.occurred ++ added.toList
  threads : ∀ (i : Nat) environ phase, s.threads[i]? = some (environ, phase) →
    ∃ phase', t.threads[i]? = some (environ, phase')
  bootstrap : t.sessions.bootstrap = s.sessions.bootstrap
  idle : t.sessions.idleSeconds = s.sessions.idleSeconds
  table : ∀ entry ∈ t.sessions.sessions,
    entry ∈ s.sessions.sessions ∧ added ≠ some (.forgotten entry.1) ∨
      ∃ j, entry.1 = entry.2.token ∧ added = some (.minted j entry.2)
  fresh : t.sessions.consumed = false → s.sessions.consumed = false ∧
    (s.sessions.sessions = [] → t.sessions.sessions = []) ∧ ∀ j session, added ≠ some (.minted j session)
  minted : ∀ j session, added = some (.minted j session) →
    s.sessions.consumed = false ∧ (s.sessions.bootstrap = secret → Minted api secret t j)
  admitted : ∀ (i : Nat) session effect now, added = some (.admitted i session effect now) →
    ∃ token environ phase, (token, session) ∈ s.sessions.sessions ∧
      t.threads[i]? = some (environ, phase) ∧
      (token = session.token → Passed api s.sessions.idleSeconds environ session effect now)
  waiting : ∀ (i : Nat) environ session effect,
    t.threads[i]? = some (environ, .admitted (.route session effect)) →
      s.threads[i]? = some (environ, .admitted (.route session effect)) ∨
        ∃ now, added = some (.admitted i session effect now)
  performed : ∀ (i : Nat) effect, added = some (.performed i effect) →
    ∃ environ session, s.threads[i]? = some (environ, .admitted (.route session effect))

theorem getElem?_added {occurred : List Occurrence} {added : Option Occurrence} {k : Nat}
    {o : Occurrence} (h : (occurred ++ added.toList)[k]? = some o) :
    occurred[k]? = some o ∨ k = occurred.length ∧ added = some o := by
  by_cases hlt : k < occurred.length
  · left
    rwa [List.getElem?_append_left hlt] at h
  · right
    rw [List.getElem?_append_right (not_lt.mp hlt)] at h
    cases added with
    | none => cases h
    | some new =>
      obtain ⟨hk, hnew⟩ := List.getElem?_eq_some_iff.mp h
      have hlength : (some new).toList.length = 1 := rfl
      rw [hlength] at hk
      refine ⟨by omega, ?_⟩
      have hzero : k - occurred.length = 0 := by omega
      simp only [hzero, Option.toList_some, List.getElem_cons_zero] at hnew
      rw [hnew]

theorem getElem?_kept {occurred : List Occurrence} {k : Nat} {o : Occurrence}
    (added : Option Occurrence) (h : occurred[k]? = some o) :
    (occurred ++ added.toList)[k]? = some o := by
  rw [List.getElem?_append_left (List.getElem?_eq_some_iff.mp h).1]
  exact h

theorem LiveAt.kept {occurred : List Occurrence} {session : BrowserSession} {k : Nat}
    (h : LiveAt occurred session k) (hk : k ≤ occurred.length) (added : Option Occurrence) :
    LiveAt (occurred ++ added.toList) session k := by
  obtain ⟨m, j, hm, hminted, hkept⟩ := h
  refine ⟨m, j, hm, getElem?_kept added hminted, fun n hmn hnk => ?_⟩
  rw [List.getElem?_append_left (by omega)]
  exact hkept n hmn hnk

/-- A session stays live while it is not forgotten. -/
theorem LiveAt.grow {occurred : List Occurrence} {session : BrowserSession} {added : Option Occurrence}
    (h : LiveAt occurred session occurred.length) (hadded : added ≠ some (.forgotten session.token)) :
    LiveAt (occurred ++ added.toList) session (occurred ++ added.toList).length := by
  obtain ⟨m, j, hm, hminted, hkept⟩ := h
  have hlength : occurred.length ≤ (occurred ++ added.toList).length := by
    rw [List.length_append]
    omega
  refine ⟨m, j, by omega, getElem?_kept added hminted, fun n hmn _ hforgotten => ?_⟩
  rcases getElem?_added hforgotten with hold | ⟨-, hnew⟩
  · exact hkept n hmn (List.getElem?_eq_some_iff.mp hold).1 hold
  · exact hadded hnew

theorem Trusted.adds {secret : String} {idleSeconds : Nat} {added : Option Occurrence}
    (h : Trusted api secret idleSeconds s) (hadds : Adds api secret idleSeconds s t added) :
    Trusted api secret idleSeconds t := by
  have hthreads : ∀ {i : Nat} {P : Environ → Prop},
      (∃ environ phase, s.threads[i]? = some (environ, phase) ∧ P environ) →
        ∃ environ phase, t.threads[i]? = some (environ, phase) ∧ P environ := by
    rintro i P ⟨environ, phase, hi, hP⟩
    obtain ⟨phase', hi'⟩ := hadds.threads i environ phase hi
    exact ⟨environ, phase', hi', hP⟩
  have hcount : t.occurred.countP Occurrence.isMinted =
      s.occurred.countP Occurrence.isMinted + added.toList.countP Occurrence.isMinted := by
    rw [hadds.occurred, List.countP_append]
  refine ⟨hadds.bootstrap.trans h.bootstrap, hadds.idle.trans h.idle, ?_, ?_, ?_, ?_, ?_, ?_, ?_⟩
  · intro entry hentry
    rw [hadds.occurred]
    rcases hadds.table entry hentry with ⟨hold, hadded⟩ | ⟨j, hkey, hadded⟩
    · obtain ⟨hkey, hlive⟩ := h.table entry hold
      exact ⟨hkey, hlive.grow (hkey ▸ hadded)⟩
    · refine ⟨hkey, s.occurred.length, j, ?_, ?_, ?_⟩
      · rw [hadded, List.length_append]
        exact Nat.lt_succ_self _
      · rw [hadded, List.getElem?_append_right (le_refl _), Nat.sub_self]
        rfl
      · intro n hlt hn
        rw [hadded, List.length_append] at hn
        have hone : (some (Occurrence.minted j entry.2)).toList.length = 1 := rfl
        omega
  · intro hconsumed
    obtain ⟨hfresh, htable, hnot⟩ := hadds.fresh hconsumed
    obtain ⟨hempty, hnone⟩ := h.fresh hfresh
    refine ⟨htable hempty, ?_⟩
    rw [hcount, hnone, Nat.zero_add]
    cases added with
    | none => rfl
    | some o =>
      cases o with
      | minted j session => exact absurd rfl (hnot j session)
      | _ => rfl
  · rw [hcount]
    cases added with
    | none => exact h.once
    | some o =>
      cases o with
      | minted j session =>
        rw [(h.fresh (hadds.minted j session rfl).1).2]
        exact le_refl _
      | _ => exact h.once
  · intro j session hmem
    rw [hadds.occurred, List.mem_append] at hmem
    rcases hmem with hold | hnew
    · obtain ⟨hrequest⟩ := h.minted j session hold
      exact ⟨hthreads hrequest⟩
    · have hadded : added = some (.minted j session) := by simpa using hnew
      exact (hadds.minted j session hadded).2 h.bootstrap
  · intro k i session effect now hk
    rw [hadds.occurred] at hk ⊢
    rcases getElem?_added hk with hold | ⟨rfl, hadded⟩
    · obtain ⟨hlive, hpassed⟩ := h.admitted k i session effect now hold
      exact ⟨hlive.kept (List.getElem?_eq_some_iff.mp hold).1.le added, hthreads hpassed⟩
    · obtain ⟨token, environ, phase, hmem, hi, hpassed⟩ := hadds.admitted i session effect now hadded
      obtain ⟨hkey, hlive⟩ := h.table (token, session) hmem
      rw [h.idle] at hpassed
      exact ⟨hlive.kept (le_refl _) added, environ, phase, hi, hpassed hkey⟩
  · intro i environ session effect hi
    rw [hadds.occurred]
    rcases hadds.waiting i environ session effect hi with hold | ⟨now, hadded⟩
    · obtain ⟨k, now, hk⟩ := h.waiting i environ session effect hold
      exact ⟨k, now, getElem?_kept added hk⟩
    · refine ⟨s.occurred.length, now, ?_⟩
      rw [hadded, List.getElem?_append_right (le_refl _), Nat.sub_self]
      rfl
  · intro k i effect hk
    rw [hadds.occurred] at hk ⊢
    rcases getElem?_added hk with hold | ⟨rfl, hadded⟩
    · obtain ⟨k', session, now, hlt, hk'⟩ := h.performed k i effect hold
      exact ⟨k', session, now, hlt, getElem?_kept added hk'⟩
    · obtain ⟨environ, session, hi⟩ := hadds.performed i effect hadded
      obtain ⟨k', now, hk'⟩ := h.waiting i environ session effect hi
      exact ⟨k', session, now, (List.getElem?_eq_some_iff.mp hk').1, getElem?_kept added hk'⟩

theorem threads_move (hi : s.threads[i]? = some (environ, phase)) (phase' : Phase) (j : Nat)
    (environ' : Environ) (old : Phase) (hj : s.threads[j]? = some (environ', old)) :
    ∃ new, (s.move i environ phase').threads[j]? = some (environ', new) := by
  by_cases hsame : i = j
  · subst hsame
    obtain ⟨rfl, -⟩ := Prod.mk.inj (Option.some.inj (hi.symm.trans hj))
    exact ⟨phase', List.getElem?_set_self (List.getElem?_eq_some_iff.mp hi).1⟩
  · exact ⟨old, (List.getElem?_set_ne hsame).trans hj⟩

theorem of_threads_move {j : Nat} {environ' : Environ} {new : Phase}
    (hj : (s.move i environ phase').threads[j]? = some (environ', new)) :
    s.threads[j]? = some (environ', new) ∨ i = j ∧ environ = environ' ∧ phase' = new := by
  by_cases hsame : i = j
  · subst hsame
    right
    have hlt := (List.getElem?_eq_some_iff.mp hj).1
    rw [move, List.length_set] at hlt
    obtain ⟨rfl, rfl⟩ := Prod.mk.inj (Option.some.inj ((List.getElem?_set_self hlt).symm.trans hj))
    exact ⟨rfl, rfl, rfl⟩
  · exact .inl ((List.getElem?_set_ne hsame).symm.trans hj)

/-- A step that only drops sessions. -/
theorem adds_nothing {secret : String} {idleSeconds : Nat} {kept : List (String × BrowserSession)}
    (hkept : kept.Sublist s.sessions.sessions) (hsessions : t.sessions = { s.sessions with sessions := kept })
    (hoccurred : t.occurred = s.occurred)
    (hthreads : ∀ (j : Nat) environ phase, s.threads[j]? = some (environ, phase) →
      ∃ phase', t.threads[j]? = some (environ, phase'))
    (hwaiting : ∀ (j : Nat) environ session effect,
      t.threads[j]? = some (environ, .admitted (.route session effect)) →
        s.threads[j]? = some (environ, .admitted (.route session effect))) :
    Adds api secret idleSeconds s t none where
  occurred := by rw [hoccurred, Option.toList_none, List.append_nil]
  threads := hthreads
  bootstrap := by rw [hsessions]
  idle := by rw [hsessions]
  table := by
    intro entry hentry
    rw [hsessions] at hentry
    exact .inl ⟨hkept.subset hentry, nofun⟩
  fresh := by
    rw [hsessions]
    refine fun hfresh => ⟨hfresh, fun hempty => ?_, nofun⟩
    rw [hempty] at hkept
    exact List.sublist_nil.mp hkept
  minted := nofun
  admitted := nofun
  waiting j environ session effect hj := .inl (hwaiting j environ session effect hj)
  performed := nofun

theorem mem_store {table : List (String × BrowserSession)} {minted : BrowserSession}
    {entry : String × BrowserSession} (h : entry ∈ SessionStore.store minted table) :
    entry ∈ table ∨ entry = (minted.token, minted) := by
  induction table with
  | nil => exact .inr (List.mem_singleton.mp h)
  | cons head table ih =>
    rw [SessionStore.store] at h
    split_ifs at h with hsame
    · rcases List.mem_cons.mp h with rfl | hrest
      · exact .inr rfl
      · exact .inl (List.mem_cons_of_mem head hrest)
    · rcases List.mem_cons.mp h with rfl | hrest
      · exact .inl List.mem_cons_self
      · rcases ih hrest with hold | hnew
        · exact .inl (List.mem_cons_of_mem head hold)
        · exact .inr hnew

/-- The step that lets a request through. -/
theorem adds_admitted {secret : String} {idleSeconds : Nat} {sessions : SessionStore} {now : Int}
    {minted : BrowserSession} {admission : Admission} (hi : s.threads[i]? = some (environ, .entered))
    (hdispatch : Dispatched api environ now minted s.sessions sessions (.ok admission)) :
    ∃ added, Adds api secret idleSeconds s
      { s.move i environ (.admitted admission) with
        sessions := sessions
        occurred := s.occurred ++ admission.occurrences i now } added := by
  have hthreads := threads_move hi (.admitted admission)
  have hself : (s.move i environ (.admitted admission)).threads[i]? =
      some (environ, .admitted admission) :=
    List.getElem?_set_self (List.getElem?_eq_some_iff.mp hi).1
  cases hdispatch with
  | created kept hpage hmethod hsecret hfresh hkept ht =>
    subst ht
    refine ⟨some (.minted i minted), ⟨rfl, hthreads, rfl, rfl, ?_, nofun, ?_, nofun, ?_, nofun⟩⟩
    · intro entry hentry
      rcases mem_store hentry with hold | rfl
      · exact .inl ⟨hkept.subset hold, nofun⟩
      · exact .inr ⟨i, rfl, rfl⟩
    · intro j session hadded
      cases hadded
      exact ⟨hfresh, fun hbootstrap => ⟨environ, _, hself, hpage, hmethod, hbootstrap ▸ hsecret⟩⟩
    · intro j environ' session effect hj
      rcases of_threads_move hj with hold | ⟨-, -, hnew⟩
      · exact .inl hold
      · cases hnew
  | forgotten token ht =>
    subst ht
    refine ⟨some (.forgotten token), ⟨rfl, hthreads, rfl, rfl, ?_, ?_, nofun, nofun, ?_, nofun⟩⟩
    · intro entry hentry
      obtain ⟨hold, hother⟩ := List.mem_filter.mp hentry
      refine .inl ⟨hold, ?_⟩
      rintro hsame
      obtain rfl : token = entry.1 := by simpa using hsame
      exact of_decide_eq_true hother rfl
    · refine fun hfresh => ⟨hfresh, fun hempty => ?_, nofun⟩
      simp only [SessionStore.forget, hempty, List.filter_nil]
    · intro j environ' session effect hj
      rcases of_threads_move hj with hold | ⟨-, -, hnew⟩
      · exact .inl hold
      · cases hnew
  | route session effect token hmem hcookie hpassed ht =>
    subst ht
    refine ⟨some (.admitted i session effect now),
      ⟨rfl, hthreads, rfl, rfl, fun entry hentry => .inl ⟨hentry, nofun⟩,
        fun hfresh => ⟨hfresh, id, nofun⟩, nofun, ?_, ?_, nofun⟩⟩
    · intro j session' effect' now' hadded
      cases hadded
      exact ⟨token, environ, _, hmem, hself, hpassed⟩
    · intro j environ' session' effect' hj
      rcases of_threads_move hj with hold | ⟨rfl, -, hnew⟩
      · exact .inl hold
      · cases hnew
        exact .inr ⟨now, rfl⟩
  | quiet kept _ hkept ht hanswer =>
    subst ht
    refine ⟨none, adds_nothing hkept rfl ?_ hthreads ?_⟩
    · simp only [hanswer admission rfl i now, List.append_nil]
    · intro j environ' session effect hj
      rcases of_threads_move hj with hold | ⟨rfl, -, hnew⟩
      · exact hold
      · cases hnew
        cases hanswer _ rfl i now

theorem adds_moves {secret : String} {idleSeconds : Nat} (hmoves : Moves api s t) :
    ∃ added, Adds api secret idleSeconds s t added := by
  have happended : ∀ (active : Int) (environ : Environ) (phase : Phase), phase = .done ∨ phase = .entered →
      ∃ added, Adds api secret idleSeconds s
        { s with active := active, threads := s.threads ++ [(environ, phase)] } added := by
    intro active environ phase hphase
    refine ⟨none, adds_nothing (List.Sublist.refl _) rfl rfl ?_ ?_⟩
    · intro j environ' old hj
      refine ⟨old, ?_⟩
      simp only [List.getElem?_append_left (List.getElem?_eq_some_iff.mp hj).1, hj]
    · intro j environ' session effect hj
      simp only [List.getElem?_append] at hj
      split_ifs at hj with hlt
      · exact hj
      · have hmem := List.mem_singleton.mp (List.mem_of_getElem? hj)
        rcases hphase with rfl | rfl <;> cases hmem
  have hreleased : ∀ (i : Nat) (environ : Environ) (phase : Phase) (sessions : SessionStore)
      (kept : List (String × BrowserSession)), s.threads[i]? = some (environ, phase) →
      kept.Sublist s.sessions.sessions → sessions = { s.sessions with sessions := kept } →
      ∃ added, Adds api secret idleSeconds s
        { s.release i environ with sessions := sessions } added := by
    intro i environ phase sessions kept hi hkept hsessions
    refine ⟨none, adds_nothing hkept hsessions rfl (threads_move hi .done) ?_⟩
    intro j environ' session effect hj
    rcases of_threads_move hj with hold | ⟨-, -, hnew⟩
    · exact hold
    · cases hnew
  cases hmoves with
  | same ht =>
    subst ht
    exact ⟨none, adds_nothing (List.Sublist.refl _) rfl rfl (fun j environ phase hj => ⟨phase, hj⟩)
      fun j environ session effect hj => hj⟩
  | refused environ hfull ht => exact ht ▸ happended s.active environ .done (.inl rfl)
  | entered environ hfree ht => exact ht ▸ happended (s.active + 1) environ .entered (.inr rfl)
  | failed i environ sessions now minted fault hi hdispatch ht =>
    cases dispatched_dispatch hdispatch with
    | quiet kept _ hkept hsessions _ => exact ht ▸ hreleased i environ _ sessions kept hi hkept hsessions
  | admitted i environ sessions now minted admission hi hdispatch ht =>
    exact ht ▸ adds_admitted hi (dispatched_dispatch hdispatch)
  | performed i environ session effect phase active hi hphase ht =>
    subst ht
    refine ⟨some (.performed i effect), ⟨rfl, threads_move hi phase, rfl, rfl,
      fun entry hentry => .inl ⟨hentry, nofun⟩, fun hfresh => ⟨hfresh, id, nofun⟩, nofun, nofun, ?_, ?_⟩⟩
    · intro j environ' session' effect' hj
      rcases of_threads_move hj with hold | ⟨-, -, hnew⟩
      · exact .inl hold
      · rcases hphase with ⟨rfl, -⟩ | ⟨rfl, -⟩ <;> cases hnew
    · intro j effect' hadded
      cases hadded
      exact ⟨environ, session, hi⟩
  | released i environ phase hi hholds ht =>
    exact ht ▸ hreleased i environ phase s.sessions s.sessions.sessions hi (List.Sublist.refl _) rfl

/-- Nothing has occurred on a server that starts. -/
theorem trusted_start (api : LocalApi) (secret : String) (idleSeconds maxSessions : Nat) :
    Trusted api secret idleSeconds (start (.create secret idleSeconds maxSessions)) where
  bootstrap := rfl
  idle := rfl
  table _ hentry := absurd hentry List.not_mem_nil
  fresh _ := ⟨rfl, rfl⟩
  once := Nat.zero_le _
  minted _ _ hmem := absurd hmem List.not_mem_nil
  admitted k _ _ _ _ hk := by
    rw [start, List.getElem?_nil] at hk
    cases hk
  waiting i _ _ _ hi := by
    rw [start, List.getElem?_nil] at hi
    cases hi
  performed k _ _ hk := by
    rw [start, List.getElem?_nil] at hk
    cases hk

theorem trusted_run (api : LocalApi) (secret : String) (idleSeconds maxSessions : Nat)
    (actions : List ServerAction) : Trusted api secret idleSeconds
      ((start (.create secret idleSeconds maxSessions)).run api actions) := by
  induction actions using List.reverseRecOn with
  | nil =>
    exact trusted_start api secret idleSeconds maxSessions
  | append_singleton actions action ih =>
    rw [run_concat]
    obtain ⟨added, hadds⟩ := adds_moves (moves_step api _ action)
    exact ih.adds hadds

/-- Over the life of a server at most one session is given out, to a request of the page that has
presented the secret. Whatever a route has done was asked for with that session, while it was young and
before anyone had forgotten it; what writes was asked for by the page, with the token of the session. -/
theorem effects_are_authorized (api : LocalApi) (secret : String) (idleSeconds maxSessions : Nat)
    (actions : List ServerAction) :
    let s := (start (.create secret idleSeconds maxSessions)).run api actions
    s.occurred.countP Occurrence.isMinted ≤ 1 ∧
    (∀ j session, Occurrence.minted j session ∈ s.occurred → Minted api secret s j) ∧
    ∀ (k i : Nat) effect, s.occurred[k]? = some (.performed i effect) →
      ∃ (k' : Nat) (environ : Environ) (phase : Phase) (session : BrowserSession) (now : Int), k' < k ∧
        s.threads[i]? = some (environ, phase) ∧
        s.occurred[k']? = some (.admitted i session effect now) ∧
        LiveAt s.occurred session k' ∧ Passed api idleSeconds environ session effect now := by
  have htrusted := trusted_run api secret idleSeconds maxSessions actions
  refine ⟨htrusted.once, htrusted.minted, ?_⟩
  intro k i effect hk
  obtain ⟨k', session, now, hlt, hk'⟩ := htrusted.performed k i effect hk
  obtain ⟨hlive, environ, phase, hi, hpassed⟩ := htrusted.admitted k' i session effect now hk'
  exact ⟨k', environ, phase, session, now, hlt, hi, hk', hlive, hpassed⟩

end Server
end ResearchOs.Web
