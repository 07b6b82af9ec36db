import ResearchOs.Data.Clients
import ResearchOs.Data.Fold

/-! Clients that fold a frozen prefix of a log page by page and append one entry behind it. -/

structure FrozenReplay (κ γ δ ε σ ρ error : Type) where
  /-- The place, counted from one, that an entry claims. -/
  position : ε → Nat
  /-- What a replay up to a mark raises where it expects a place and finds another entry or none. -/
  misplaced : Nat → Nat → Option Nat → error
  init : σ
  apply : κ → σ → ε → Except error σ
  /-- What a call appends behind a head whose prefix has folded to a state. -/
  draft : κ → γ → Nat → σ → Except error δ
  commit : List ε → δ → Nat → Except error ε
  finish : κ → γ → δ → σ → ε → Except error ρ
  admits : List ε → ε → Bool

namespace FrozenReplay

variable {κ γ δ ε σ ρ error : Type}

inductive Phase (δ ε σ ρ error : Type) where
  | called
  | reading (highWater after : Nat) (state : σ)
  | drafted (draft : δ) (head : Nat) (state : σ)
  | returned (entry : ε) (result : ρ)
  | raised (exception : error)

structure Client (κ γ δ ε σ ρ error : Type) where
  key : κ
  call : γ
  pageSize : Nat
  phase : Phase δ ε σ ρ error

variable (C : FrozenReplay κ γ δ ε σ ρ error)

def replay (k : κ) (log : List ε) : Except error σ := log.foldlM (C.apply k) C.init

/-- Fold the entries of a page, each at its place. -/
def visit (k : κ) (highWater : Nat) : Nat → σ → List ε → Except error σ
  | _, state, [] => .ok state
  | expected, state, entry :: rest =>
    if C.position entry = expected then do
      let next ← C.apply k state entry
      visit k highWater (expected + 1) next rest
    else .error (C.misplaced highWater expected (some (C.position entry)))

/-- The entries behind `after` that a bounded page holds, up to the frozen mark. -/
def page (log : List ε) (highWater after pageSize : Nat) : List ε :=
  ((log.drop after).take pageSize).take (highWater - after)

def readPage (log : List ε) (k : κ) (pageSize highWater after : Nat) (state : σ) :
    Except error (Phase δ ε σ ρ error) :=
  if (page log highWater after pageSize).isEmpty then .error (C.misplaced highWater (after + 1) none)
  else do
    let next ← C.visit k highWater (after + 1) state (page log highWater after pageSize)
    .ok (.reading highWater (after + (page log highWater after pageSize).length) next)

def orRaised : Except error (Phase δ ε σ ρ error) → Phase δ ε σ ρ error
  | .ok phase => phase
  | .error exception => .raised exception

/-- One step of a client: freeze, read a page, draft, append. -/
def advance (log : List ε) (client : Client κ γ δ ε σ ρ error) :
    Phase δ ε σ ρ error × Option ε :=
  match client.phase with
  | .called => (.reading log.length 0 C.init, none)
  | .reading highWater after state =>
    if highWater ≤ after then
      match C.draft client.key client.call highWater state with
      | .ok draft => (.drafted draft highWater state, none)
      | .error exception => (.raised exception, none)
    else (orRaised (C.readPage log client.key client.pageSize highWater after state), none)
  | .drafted draft head state =>
    match C.commit log draft head with
    | .error exception => (.raised exception, none)
    | .ok entry =>
      match C.finish client.key client.call draft state entry with
      | .ok result => (.returned entry result, some entry)
      | .error exception => (.raised exception, some entry)
  | .returned entry result => (.returned entry result, none)
  | .raised exception => (.raised exception, none)

def clients : Clients ε (Client κ γ δ ε σ ρ error) Unit where
  starts client :=
    match client.phase with
    | .called => decide (0 < client.pageSize)
    | _ => false
  admits := C.admits
  move log client _ :=
    ({ client with phase := (C.advance log client).1 }, (C.advance log client).2)

/-- An entry that one aggregate drafts folds for it, and no entry stops another one. -/
structure Lawful : Prop where
  head : ∀ {log draft head entry}, C.commit log draft head = .ok entry → head = log.length
  folds : ∀ {log k call draft state entry}, C.replay k log = .ok state →
    C.draft k call log.length state = .ok draft → C.commit log draft log.length = .ok entry →
    ∃ next, C.apply k state entry = .ok next
  others : ∀ {log k call draft state entry k'}, C.draft k call log.length state = .ok draft →
    C.commit log draft log.length = .ok entry → k' ≠ k →
    ∀ other, ∃ next, C.apply k' other entry = .ok next
  foreign : ∀ {log entry}, C.admits log entry = true →
    ∀ k state, ∃ next, C.apply k state entry = .ok next

variable {C}

def Foldable (C : FrozenReplay κ γ δ ε σ ρ error) (k : κ) (log : List ε) : Prop :=
  ∃ state, C.replay k log = .ok state

theorem visit_ok {k : κ} {entries : List ε} {highWater expected : Nat} {state next : σ}
    (h : C.visit k highWater expected state entries = .ok next) :
    entries.foldlM (C.apply k) state = .ok next := by
  induction entries generalizing expected state with
  | nil => exact h
  | cons entry rest ih =>
    simp only [visit] at h
    split_ifs at h
    obtain ⟨middle, hmiddle, h⟩ := Fold.bind_eq_ok.mp h
    exact Fold.foldlM_cons_eq_ok.mpr ⟨middle, hmiddle, ih h⟩

theorem take_append_page (log : List ε) (highWater after pageSize : Nat) :
    log.take after ++ page log highWater after pageSize =
      log.take (after + (page log highWater after pageSize).length) := by
  have htake : (log.drop after).take (page log highWater after pageSize).length =
      page log highWater after pageSize := by
    simp only [page, List.take_take, List.length_take, List.length_drop]
    rw [List.take_eq_take_iff, List.length_drop]
    omega
  rw [List.take_add, htake]

theorem readPage_ok {log : List ε} {k : κ} {pageSize highWater after : Nat} {state : σ}
    {phase : Phase δ ε σ ρ error} (hafter : after ≤ highWater)
    (hstate : C.replay k (log.take after) = .ok state)
    (h : C.readPage log k pageSize highWater after state = .ok phase) :
    ∃ after' next, phase = .reading highWater after' next ∧ after' ≤ highWater ∧
      C.replay k (log.take after') = .ok next := by
  unfold readPage at h
  split_ifs at h
  obtain ⟨next, hnext, h⟩ := Fold.bind_eq_ok.mp h
  cases h
  refine ⟨_, next, rfl, ?_, ?_⟩
  · simp only [page, List.length_take]
    omega
  · rw [← take_append_page log highWater after pageSize]
    exact Fold.foldlM_append_eq_ok.mpr ⟨state, hstate, visit_ok hnext⟩

/-- An entry that a call has appended behind the prefix it had folded. -/
structure Committed (C : FrozenReplay κ γ δ ε σ ρ error) (log : List ε) (k : κ) (call : γ)
    (entry : ε) (draft : δ) (state : σ) : Prop where
  folded : C.replay k log = .ok state
  drafted : C.draft k call log.length state = .ok draft
  committed : C.commit log draft log.length = .ok entry

/-- What each phase of a client says about the log. -/
def Sound (C : FrozenReplay κ γ δ ε σ ρ error) (log : List ε)
    (client : Client κ γ δ ε σ ρ error) : Prop :=
  match client.phase with
  | .called => True
  | .reading highWater after state =>
    after ≤ highWater ∧ highWater ≤ log.length ∧ C.replay client.key (log.take after) = .ok state
  | .drafted draft head state =>
    head ≤ log.length ∧ C.replay client.key (log.take head) = .ok state ∧
      C.draft client.key client.call head state = .ok draft
  | .returned entry result =>
    ∃ before draft state, before ++ [entry] <+: log ∧
      C.Committed before client.key client.call entry draft state ∧
      C.finish client.key client.call draft state entry = .ok result
  | .raised _ => True

theorem Sound.mono {log : List ε} {client : Client κ γ δ ε σ ρ error} (h : C.Sound log client)
    (entry : ε) : C.Sound (log ++ [entry]) client := by
  unfold Sound at h ⊢
  cases hphase : client.phase with
  | called => trivial
  | reading highWater after state =>
    simp only [hphase] at h ⊢
    obtain ⟨hafter, hhigh, hstate⟩ := h
    rw [List.take_append_of_le_length (by omega)]
    exact ⟨hafter, by simp only [List.length_append]; omega, hstate⟩
  | drafted draft head state =>
    simp only [hphase] at h ⊢
    obtain ⟨hhead, hstate, hdraft⟩ := h
    rw [List.take_append_of_le_length hhead]
    exact ⟨by simp only [List.length_append]; omega, hstate, hdraft⟩
  | returned found result =>
    simp only [hphase] at h ⊢
    obtain ⟨before, draft, state, hlonger, hcommitted⟩ := h
    exact ⟨before, draft, state, hlonger.trans (List.prefix_append log [entry]), hcommitted⟩
  | raised exception => trivial

/-- A client that appends has folded the whole log. -/
theorem Sound.committed {log : List ε} {client : Client κ γ δ ε σ ρ error} {entry : ε}
    (hlawful : C.Lawful) (h : C.Sound log client) (happend : (C.advance log client).2 = some entry) :
    ∃ draft state, client.phase = .drafted draft log.length state ∧
      C.Committed log client.key client.call entry draft state := by
  unfold advance at happend
  cases hphase : client.phase with
  | drafted draft head state =>
    simp only [Sound, hphase] at h
    simp only [hphase] at happend
    obtain ⟨-, hstate, hdraft⟩ := h
    cases hcommit : C.commit log draft head with
    | error exception =>
      rw [hcommit] at happend
      cases happend
    | ok found =>
      have hhead := hlawful.head hcommit
      subst hhead
      have hfound : found = entry := by
        simp only [hcommit] at happend
        cases hfinish : C.finish client.key client.call draft state found with
        | ok result =>
          rw [hfinish] at happend
          exact Option.some.inj happend
        | error exception =>
          rw [hfinish] at happend
          exact Option.some.inj happend
      rw [List.take_length] at hstate
      exact ⟨draft, state, rfl, hstate, hdraft, by rw [hcommit, hfound]⟩
  | reading highWater after state =>
    simp only [hphase] at happend
    split at happend
    · split at happend <;> cases happend
    · cases happend
  | called =>
    rw [hphase] at happend
    cases happend
  | returned found result =>
    rw [hphase] at happend
    cases happend
  | raised exception =>
    rw [hphase] at happend
    cases happend

theorem Sound.advance {log : List ε} {client : Client κ γ δ ε σ ρ error} (hlawful : C.Lawful)
    (h : C.Sound log client) :
    C.Sound (log ++ (C.advance log client).2.toList)
      { client with phase := (C.advance log client).1 } := by
  cases hphase : client.phase with
  | called =>
    simp only [FrozenReplay.advance, hphase, Option.toList_none, List.append_nil, Sound]
    exact ⟨Nat.zero_le _, Nat.le_refl _, rfl⟩
  | reading highWater after state =>
    simp only [Sound, hphase] at h
    obtain ⟨hafter, hhigh, hstate⟩ := h
    simp only [FrozenReplay.advance, hphase]
    split_ifs with hdone
    · have hall : after = highWater := by omega
      subst hall
      cases hdraft : C.draft client.key client.call after state with
      | ok draft =>
        simp only [Option.toList_none, List.append_nil, Sound]
        exact ⟨hhigh, hstate, hdraft⟩
      | error exception => trivial
    · cases hread : C.readPage (δ := δ) (ρ := ρ) log client.key client.pageSize highWater after
          state with
      | ok phase =>
        obtain ⟨after', next, rfl, hafter', hnext⟩ := readPage_ok hafter hstate hread
        simp only [orRaised, Option.toList_none, List.append_nil, Sound]
        exact ⟨hafter', hhigh, hnext⟩
      | error exception => trivial
  | drafted draft head state =>
    cases happend : (C.advance log client).2 with
    | none =>
      simp only [FrozenReplay.advance, hphase] at happend ⊢
      cases hcommit : C.commit log draft head with
      | error exception => trivial
      | ok entry =>
        simp only [hcommit] at happend
        split at happend <;> cases happend
    | some entry =>
      obtain ⟨draft', state', hdrafted, hcommitted⟩ := h.committed hlawful happend
      rw [hphase] at hdrafted
      cases hdrafted
      simp only [FrozenReplay.advance, hphase, hcommitted.committed]
      cases hfinish : C.finish client.key client.call draft state entry with
      | ok result => exact ⟨log, draft, state, List.prefix_rfl, hcommitted, hfinish⟩
      | error exception => trivial
  | returned entry result =>
    simp only [FrozenReplay.advance, hphase, Option.toList_none, List.append_nil]
    simpa only [Sound, hphase] using h
  | raised exception =>
    simp only [FrozenReplay.advance, hphase]
    trivial

theorem Committed.foldable (hlawful : C.Lawful) {log : List ε} {k : κ} {call : γ} {entry : ε}
    {draft : δ} {state : σ} (h : C.Committed log k call entry draft state) {k' : κ}
    (hfold : C.Foldable k' log) : C.Foldable k' (log ++ [entry]) := by
  obtain ⟨other, hother⟩ := hfold
  by_cases hkey : k' = k
  · subst hkey
    obtain ⟨next, hnext⟩ := hlawful.folds h.folded h.drafted h.committed
    exact ⟨next, Fold.foldlM_concat_eq_ok.mpr ⟨state, h.folded, hnext⟩⟩
  · obtain ⟨next, hnext⟩ := hlawful.others h.drafted h.committed hkey other
    exact ⟨next, Fold.foldlM_concat_eq_ok.mpr ⟨other, hother, hnext⟩⟩

/-- What folded in the beginning folds after every step, and every client stays sound. -/
theorem Lawful.invariant (hlawful : C.Lawful) (start : List ε) :
    C.clients.Invariant (fun log => ∀ k, C.Foldable k start → C.Foldable k log) C.Sound where
  mono log entry client hclient := hclient.mono entry
  start log client hstart := by
    simp only [clients] at hstart
    cases hphase : client.phase <;> simp_all [Sound]
  foreign log entry hlog hadmits k hfold := by
    obtain ⟨state, hstate⟩ := hlog k hfold
    obtain ⟨next, hnext⟩ := hlawful.foreign hadmits k state
    exact ⟨next, Fold.foldlM_concat_eq_ok.mpr ⟨state, hstate, hnext⟩⟩
  move log client input hlog hclient := by
    refine ⟨?_, hclient.advance hlawful⟩
    intro k hfold
    change C.Foldable k (log ++ (C.advance log client).2.toList)
    cases happend : (C.advance log client).2 with
    | none =>
      rw [Option.toList_none, List.append_nil]
      exact hlog k hfold
    | some entry =>
      obtain ⟨draft, state, -, hcommitted⟩ := hclient.committed hlawful happend
      exact hcommitted.foldable hlawful (hlog k hfold)

/-- After every run what folded in the beginning folds, and every client is sound. -/
theorem Lawful.run (hlawful : C.Lawful) (start : List ε)
    (actions : List (Clients.Action ε (Client κ γ δ ε σ ρ error) Unit)) :
    Clients.Holds (fun log => ∀ k, C.Foldable k start → C.Foldable k log) C.Sound
      (C.clients.run ⟨start, []⟩ actions) :=
  (hlawful.invariant start).run ⟨fun _ hfold => hfold, by simp⟩ actions

/-! What a replay finds in its place, and what a log keeps once a call has returned. -/

/-- Every entry stands where it claims. -/
def InPlace (C : FrozenReplay κ γ δ ε σ ρ error) (log : List ε) : Prop :=
  ∀ i entry, log[i]? = some entry → C.position entry = i + 1

theorem InPlace.concat {log : List ε} {entry : ε} (h : C.InPlace log)
    (hposition : C.position entry = log.length + 1) : C.InPlace (log ++ [entry]) := by
  intro i found hfound
  by_cases hi : i < log.length
  · rw [List.getElem?_append_left hi] at hfound
    exact h i found hfound
  · rw [List.getElem?_append_right (by omega)] at hfound
    have hlast : i - log.length = 0 := by
      by_contra hne
      rw [List.getElem?_eq_none (by simp; omega)] at hfound
      cases hfound
    rw [hlast] at hfound
    cases hfound
    omega

theorem visit_inPlace {k : κ} {entries : List ε} {highWater expected : Nat} {state next : σ}
    (h : C.visit k highWater expected state entries = .ok next) :
    ∀ i entry, entries[i]? = some entry → C.position entry = expected + i := by
  induction entries generalizing expected state with
  | nil =>
    intro i entry hentry
    cases hentry
  | cons first rest ih =>
    simp only [visit] at h
    split_ifs at h with hposition
    obtain ⟨middle, -, h⟩ := Fold.bind_eq_ok.mp h
    intro i entry hentry
    cases i with
    | zero =>
      cases hentry
      exact hposition
    | succ i =>
      have hrest := ih h i entry hentry
      omega

/-- A replay accepts the entries that stand in their places and fold. -/
theorem visit_eq_ok {k : κ} {entries : List ε} {highWater expected : Nat} {state next : σ} :
    C.visit k highWater expected state entries = .ok next ↔
      (∀ i entry, entries[i]? = some entry → C.position entry = expected + i) ∧
        entries.foldlM (C.apply k) state = .ok next := by
  constructor
  · intro h
    exact ⟨visit_inPlace h, visit_ok h⟩
  · rintro ⟨hplace, hfold⟩
    induction entries generalizing expected state with
    | nil => exact hfold
    | cons first rest ih =>
      obtain ⟨middle, hmiddle, hfold⟩ := Fold.foldlM_cons_eq_ok.mp hfold
      have hrest : ∀ i entry, rest[i]? = some entry → C.position entry = expected + 1 + i := by
        intro i entry hentry
        have hi := hplace (i + 1) entry hentry
        omega
      have hfirst : C.position first = expected := hplace 0 first rfl
      rw [visit, if_pos hfirst]
      exact Fold.bind_eq_ok.mpr ⟨middle, hmiddle, ih hrest hfold⟩

/-- A replay does not tell entries apart that its aggregate does not. -/
theorem visit_congr {k : κ} {highWater expected : Nat} {state : σ} {entries others : List ε}
    (h : List.Forall₂ (fun a b => C.position a = C.position b ∧
      ∀ state, C.apply k state a = C.apply k state b) entries others) :
    C.visit k highWater expected state entries = C.visit k highWater expected state others := by
  induction h generalizing expected state with
  | nil => rfl
  | @cons a b _ _ hsame _ ih =>
    rw [visit, visit, hsame.1, hsame.2 state]
    by_cases hplace : C.position b = expected
    · rw [if_pos hplace, if_pos hplace]
      exact bind_congr fun next => ih
    · rw [if_neg hplace, if_neg hplace]

theorem readPage_inPlace {log : List ε} {k : κ} {pageSize highWater after : Nat} {state : σ}
    {phase : Phase δ ε σ ρ error} (hafter : after ≤ log.length) (hplace : C.InPlace (log.take after))
    (h : C.readPage log k pageSize highWater after state = .ok phase) :
    ∃ after' next, phase = .reading highWater after' next ∧ C.InPlace (log.take after') := by
  unfold readPage at h
  split_ifs at h
  obtain ⟨next, hnext, h⟩ := Fold.bind_eq_ok.mp h
  cases h
  refine ⟨_, next, rfl, ?_⟩
  rw [← take_append_page log highWater after pageSize]
  intro i entry hentry
  have hlength : (log.take after).length = after := List.length_take_of_le hafter
  by_cases hi : i < after
  · rw [List.getElem?_append_left (by omega)] at hentry
    exact hplace i entry hentry
  · rw [List.getElem?_append_right (by omega), hlength] at hentry
    have hposition := visit_inPlace hnext (i - after) entry hentry
    omega

/-- What the commit of a call establishes for its aggregate, and every append keeps. -/
structure Persists (C : FrozenReplay κ γ δ ε σ ρ error) (R : κ → List ε → Prop) : Prop where
  established : ∀ {log k call entry draft state}, C.InPlace log →
    C.Committed log k call entry draft state → R k (log ++ [entry])
  kept : ∀ {log k call entry draft state k'}, C.Committed log k call entry draft state →
    R k' log → R k' (log ++ [entry])
  foreign : ∀ {log entry}, C.admits log entry = true → ∀ k, R k log → R k (log ++ [entry])

/-- What a client has read is in place, and what it has returned persists. -/
def Reads (C : FrozenReplay κ γ δ ε σ ρ error) (R : κ → List ε → Prop) (start log : List ε)
    (client : Client κ γ δ ε σ ρ error) : Prop :=
  match client.phase with
  | .reading _ after _ => C.InPlace (log.take after)
  | .drafted _ head _ => C.InPlace (log.take head)
  | .returned _ _ => ∃ before, start <+: before ∧ before <+: log ∧ R client.key before
  | _ => True

/-- What held of a longer log than the first one holds of this one. -/
def Persistent (R : κ → List ε → Prop) (start log : List ε) : Prop :=
  start <+: log ∧ ∀ k before, start <+: before → before <+: log → R k before → R k log

theorem Persistent.concat {R : κ → List ε → Prop} {start log : List ε} {entry : ε}
    (h : Persistent R start log) (hkept : ∀ k, R k log → R k (log ++ [entry])) :
    Persistent R start (log ++ [entry]) := by
  refine ⟨h.1.trans (List.prefix_append log [entry]), ?_⟩
  intro k before hstart hbefore hholds
  rcases List.prefix_concat_iff.mp hbefore with rfl | hbefore
  · exact hholds
  · exact hkept k (h.2 k before hstart hbefore hholds)

variable {R : κ → List ε → Prop} {start log : List ε} {client : Client κ γ δ ε σ ρ error}

theorem Reads.mono (hsound : C.Sound log client) (h : C.Reads R start log client) (entry : ε) :
    C.Reads R start (log ++ [entry]) client := by
  unfold Reads at h ⊢
  unfold Sound at hsound
  cases hphase : client.phase with
  | called => trivial
  | reading highWater after state =>
    simp only [hphase] at h hsound ⊢
    rwa [List.take_append_of_le_length (by omega)]
  | drafted draft head state =>
    simp only [hphase] at h hsound ⊢
    rwa [List.take_append_of_le_length hsound.1]
  | returned found result =>
    simp only [hphase] at h ⊢
    obtain ⟨before, hstart, hbefore, hholds⟩ := h
    exact ⟨before, hstart, hbefore.trans (List.prefix_append log [entry]), hholds⟩
  | raised exception => trivial

/-- A client that appends has read the whole log in its place. -/
theorem Reads.advance (hlawful : C.Lawful) (hpersists : C.Persists R) (hsound : C.Sound log client)
    (hlog : Persistent R start log) (h : C.Reads R start log client) :
    C.Reads R start (log ++ (C.advance log client).2.toList)
      { client with phase := (C.advance log client).1 } := by
  cases hphase : client.phase with
  | called =>
    simp only [FrozenReplay.advance, hphase, Option.toList_none, List.append_nil, Reads]
    intro i entry hentry
    rw [List.take_zero] at hentry
    cases hentry
  | reading highWater after state =>
    simp only [Reads, hphase] at h
    simp only [Sound, hphase] at hsound
    simp only [FrozenReplay.advance, hphase]
    split_ifs with hdone
    · have hall : after = highWater := by omega
      subst hall
      cases hdraft : C.draft client.key client.call after state with
      | ok draft =>
        simp only [Option.toList_none, List.append_nil, Reads]
        exact h
      | error exception => trivial
    · cases hread : C.readPage (δ := δ) (ρ := ρ) log client.key client.pageSize highWater after
          state with
      | ok phase =>
        obtain ⟨after', next, rfl, hplace⟩ := readPage_inPlace (by omega) h hread
        simp only [orRaised, Option.toList_none, List.append_nil, Reads]
        exact hplace
      | error exception => trivial
  | drafted draft head state =>
    cases happend : (C.advance log client).2 with
    | none =>
      simp only [FrozenReplay.advance, hphase] at happend ⊢
      cases hcommit : C.commit log draft head with
      | error exception => trivial
      | ok entry =>
        simp only [hcommit] at happend
        split at happend <;> cases happend
    | some entry =>
      obtain ⟨draft', state', hdrafted, hcommitted⟩ := hsound.committed hlawful happend
      rw [hphase] at hdrafted
      cases hdrafted
      simp only [Reads, hphase, List.take_length] at h
      simp only [FrozenReplay.advance, hphase, hcommitted.committed]
      cases hfinish : C.finish client.key client.call draft state entry with
      | ok result =>
        exact ⟨log ++ [entry], hlog.1.trans (List.prefix_append log [entry]), List.prefix_rfl,
          hpersists.established h hcommitted⟩
      | error exception => trivial
  | returned entry result =>
    simp only [FrozenReplay.advance, hphase, Option.toList_none, List.append_nil]
    simpa only [Reads, hphase] using h
  | raised exception =>
    simp only [FrozenReplay.advance, hphase]
    trivial

theorem Lawful.persistentInvariant (hlawful : C.Lawful) (hpersists : C.Persists R)
    (start : List ε) :
    C.clients.Invariant (Persistent R start)
      (fun log client => C.Sound log client ∧ C.Reads R start log client) where
  mono log entry client hclient := ⟨hclient.1.mono entry, hclient.2.mono hclient.1 entry⟩
  start log client hstart := by
    simp only [clients] at hstart
    cases hphase : client.phase <;> simp_all [Sound, Reads]
  foreign log entry hlog hadmits := hlog.concat fun k => hpersists.foreign hadmits k
  move log client input hlog hclient := by
    refine ⟨?_, hclient.1.advance hlawful, hclient.2.advance hlawful hpersists hclient.1 hlog⟩
    change Persistent R start (log ++ (C.advance log client).2.toList)
    cases happend : (C.advance log client).2 with
    | none =>
      rw [Option.toList_none, List.append_nil]
      exact hlog
    | some entry =>
      obtain ⟨draft, state, -, hcommitted⟩ := hclient.1.committed hlawful happend
      exact hlog.concat fun k => hpersists.kept hcommitted

/-- What the commit of a returned call has established holds of every later log. -/
theorem Lawful.returned_persists (hlawful : C.Lawful) (hpersists : C.Persists R) (start : List ε)
    (actions : List (Clients.Action ε (Client κ γ δ ε σ ρ error) Unit)) :
    ∀ client ∈ (C.clients.run ⟨start, []⟩ actions).clients, ∀ entry result,
      client.phase = .returned entry result →
        R client.key (C.clients.run ⟨start, []⟩ actions).log := by
  have hstart : Persistent R start start :=
    ⟨List.prefix_rfl, fun k before hlonger hshorter hholds => by
      rwa [hlonger.eq_of_length_le hshorter.length_le]⟩
  have hholds : Clients.Holds (Persistent R start)
      (fun log client => C.Sound log client ∧ C.Reads R start log client)
      (C.clients.run ⟨start, []⟩ actions) :=
    (hlawful.persistentInvariant hpersists start).run ⟨hstart, by simp⟩ actions
  obtain ⟨hlog, hclients⟩ := hholds
  intro client hclient entry result hphase
  obtain ⟨-, hreads⟩ := hclients client hclient
  simp only [Reads, hphase] at hreads
  obtain ⟨before, hlonger, hshorter, hholds⟩ := hreads
  exact hlog.2 client.key before hlonger hshorter hholds

end FrozenReplay
