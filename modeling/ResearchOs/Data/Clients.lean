import Mathlib.Data.List.Basic

/-! Clients of an append-only log. A move of a client reads the log and appends at most one
entry; the others move between two moves of one client. -/

structure Clients (ε θ ι : Type) where
  /-- Clients that may join. -/
  starts : θ → Bool
  /-- Entries that others may append. -/
  admits : List ε → ε → Bool
  move : List ε → θ → ι → θ × Option ε

namespace Clients

variable {ε θ ι : Type}

structure State (ε θ : Type) where
  log : List ε
  clients : List θ

inductive Action (ε θ ι : Type) where
  | join (client : θ)
  | move (i : Nat) (input : ι)
  | foreign (entry : ε)

variable (C : Clients ε θ ι)

/-- The client that an action moves, and the entry that the action appends. -/
def appends (s : State ε θ) : Action ε θ ι → Option (θ × ε)
  | .move i input =>
    s.clients[i]?.bind fun client => (C.move s.log client input).2.map fun entry => (client, entry)
  | _ => none

def step (s : State ε θ) : Action ε θ ι → State ε θ
  | .join client => if C.starts client then { s with clients := s.clients ++ [client] } else s
  | .move i input =>
    match s.clients[i]? with
    | some client =>
      ⟨s.log ++ (C.move s.log client input).2.toList,
        s.clients.set i (C.move s.log client input).1⟩
    | none => s
  | .foreign entry => if C.admits s.log entry then { s with log := s.log ++ [entry] } else s

def run (s : State ε θ) (actions : List (Action ε θ ι)) : State ε θ := actions.foldl C.step s

/-- The actions of a run, each with the state it found. -/
def trace : State ε θ → List (Action ε θ ι) → List (State ε θ × Action ε θ ι)
  | _, [] => []
  | s, a :: as => (s, a) :: trace (C.step s a) as

theorem mem_trace_concat (s : State ε θ) (actions : List (Action ε θ ι)) (a : Action ε θ ι) :
    (C.run s actions, a) ∈ C.trace s (actions ++ [a]) := by
  induction actions generalizing s with
  | nil => exact List.mem_cons_self
  | cons b actions ih => exact List.mem_cons_of_mem _ (ih (C.step s b))

/-- An invariant of the log and of each client with the log. -/
structure Invariant (J : List ε → Prop) (I : List ε → θ → Prop) : Prop where
  mono : ∀ log entry client, I log client → I (log ++ [entry]) client
  start : ∀ log client, C.starts client = true → I log client
  foreign : ∀ log entry, J log → C.admits log entry = true → J (log ++ [entry])
  move : ∀ log client input, J log → I log client →
    J (log ++ (C.move log client input).2.toList) ∧
      I (log ++ (C.move log client input).2.toList) (C.move log client input).1

variable {C} {J : List ε → Prop} {I : List ε → θ → Prop}

theorem Invariant.mono_toList (h : C.Invariant J I) {log : List ε} {client : θ}
    (hclient : I log client) (entry : Option ε) : I (log ++ entry.toList) client := by
  cases entry with
  | none => simpa using hclient
  | some entry => exact h.mono log entry client hclient

def Holds (J : List ε → Prop) (I : List ε → θ → Prop) (s : State ε θ) : Prop :=
  J s.log ∧ ∀ client ∈ s.clients, I s.log client

theorem Invariant.step (h : C.Invariant J I) {s : State ε θ} (hs : Holds J I s)
    (a : Action ε θ ι) : Holds J I (C.step s a) := by
  obtain ⟨hlog, hclients⟩ := hs
  cases a with
  | join client =>
    simp only [Clients.step]
    split_ifs with hstart
    · refine ⟨hlog, ?_⟩
      intro other hother
      rcases List.mem_append.mp hother with hother | hother
      · exact hclients other hother
      · cases List.mem_singleton.mp hother
        exact h.start s.log client hstart
    · exact ⟨hlog, hclients⟩
  | move i input =>
    simp only [Clients.step]
    split
    · rename_i client hclient
      have hmove := h.move s.log client input hlog
        (hclients client (List.mem_of_getElem? hclient))
      refine ⟨hmove.1, ?_⟩
      intro other hother
      rcases List.mem_or_eq_of_mem_set hother with hother | rfl
      · exact h.mono_toList (hclients other hother) _
      · exact hmove.2
    · exact ⟨hlog, hclients⟩
  | foreign entry =>
    simp only [Clients.step]
    split_ifs with hadmits
    · exact ⟨h.foreign s.log entry hlog hadmits,
        fun client hclient => h.mono s.log entry client (hclients client hclient)⟩
    · exact ⟨hlog, hclients⟩

theorem Invariant.run (h : C.Invariant J I) {s : State ε θ} (hs : Holds J I s)
    (actions : List (Action ε θ ι)) : Holds J I (C.run s actions) := by
  induction actions generalizing s with
  | nil => exact hs
  | cons a actions ih => exact ih (h.step hs a)

/-- Every state that a run passes through has the invariant. -/
theorem Invariant.trace (h : C.Invariant J I) {s : State ε θ} (hs : Holds J I s)
    (actions : List (Action ε θ ι)) : ∀ p ∈ C.trace s actions, Holds J I p.1 := by
  induction actions generalizing s with
  | nil => simp [Clients.trace]
  | cons a actions ih =>
    intro p hp
    rcases List.mem_cons.mp hp with rfl | hp
    · exact hs
    · exact ih (h.step hs a) p hp

/-- The clients among those that may join. -/
def only (C : Clients ε θ ι) (p : θ → Bool) : Clients ε θ ι :=
  { C with starts := fun client => C.starts client && p client }

/-- A run in which no other client joins is a run of the chosen ones. -/
theorem run_only {p : θ → Bool} {actions : List (Action ε θ ι)} (s : State ε θ)
    (h : ∀ client, .join client ∈ actions → p client = true) :
    (C.only p).run s actions = C.run s actions := by
  induction actions generalizing s with
  | nil => rfl
  | cons a actions ih =>
    have hstep : (C.only p).step s a = C.step s a := by
      cases a with
      | join client => simp [Clients.step, only, h client List.mem_cons_self]
      | move i input => rfl
      | foreign entry => rfl
    change (C.only p).run ((C.only p).step s a) actions = C.run (C.step s a) actions
    rw [hstep]
    exact ih _ fun client hclient => h client (List.mem_cons_of_mem a hclient)

/-- A right that the log issues: one client holds it, or it has been spent in the log. -/
structure Tickets (C : Clients ε θ ι) (J : List ε → Prop) (I : List ε → θ → Prop)
    (issued spent : List ε → Nat) (holds : θ → Bool) : Prop where
  start : ∀ client, C.starts client = true → holds client = false
  foreign : ∀ log entry, C.admits log entry = true →
    spent (log ++ [entry]) + issued log ≤ spent log + issued (log ++ [entry])
  move : ∀ log client input, J log → I log client →
    spent (log ++ (C.move log client input).2.toList) +
        (holds (C.move log client input).1).toNat + issued log ≤
      spent log + (holds client).toNat + issued (log ++ (C.move log client input).2.toList)

theorem countP_set_add {α : Type} (p : α → Bool) {items : List α} {i : Nat} {a b : α}
    (h : items[i]? = some a) :
    (items.set i b).countP p + (p a).toNat = items.countP p + (p b).toNat := by
  induction items generalizing i with
  | nil => simp at h
  | cons c items ih =>
    cases i with
    | zero =>
      obtain rfl := Option.some.inj h
      rw [List.set_cons_zero, List.countP_cons, List.countP_cons]
      cases p c <;> cases p b <;> simp
    | succ i =>
      have hrest := ih h
      rw [List.set_cons_succ, List.countP_cons, List.countP_cons]
      omega

theorem eq_of_countP_le_one {α : Type} {p : α → Bool} {items : List α} {i j : Nat} {a b : α}
    (hcount : items.countP p ≤ 1) (ha : items[i]? = some a) (hb : items[j]? = some b)
    (hpa : p a = true) (hpb : p b = true) : i = j := by
  induction items generalizing i j with
  | nil => simp at ha
  | cons item items ih =>
    rw [List.countP_cons] at hcount
    have hlater : ∀ {k : Nat} {c : α}, items[k]? = some c → p c = true → 1 ≤ items.countP p :=
      fun hc hpc => List.countP_pos_iff.mpr ⟨_, List.mem_of_getElem? hc, hpc⟩
    cases i with
    | zero =>
      cases j with
      | zero => rfl
      | succ j =>
        cases ha
        have hrest := hlater hb hpb
        rw [if_pos hpa] at hcount
        omega
    | succ i =>
      cases j with
      | zero =>
        cases hb
        have hrest := hlater ha hpa
        rw [if_pos hpb] at hcount
        omega
      | succ j => rw [ih (by omega) ha hb]

variable {issued spent : List ε → Nat} {holds : θ → Bool}

theorem Tickets.step (h : C.Tickets J I issued spent holds) {s : State ε θ} (hs : Holds J I s)
    (hcount : spent s.log + s.clients.countP holds ≤ issued s.log) (a : Action ε θ ι) :
    spent (C.step s a).log + (C.step s a).clients.countP holds ≤ issued (C.step s a).log := by
  cases a with
  | join client =>
    simp only [Clients.step]
    split_ifs with hstart
    · have hnone := h.start client hstart
      simpa [List.countP_append, hnone] using hcount
    · exact hcount
  | move i input =>
    simp only [Clients.step]
    split
    · rename_i client hclient
      have hmove := h.move s.log client input hs.1 (hs.2 client (List.mem_of_getElem? hclient))
      have hset := countP_set_add holds (b := (C.move s.log client input).1) hclient
      dsimp only
      omega
    · exact hcount
  | foreign entry =>
    simp only [Clients.step]
    split_ifs with hadmits
    · have hforeign := h.foreign s.log entry hadmits
      dsimp only
      omega
    · exact hcount

/-- No run spends and holds more than its log has issued. -/
theorem Tickets.run (h : C.Tickets J I issued spent holds) (hinvariant : C.Invariant J I)
    {s : State ε θ} (hs : Holds J I s)
    (hcount : spent s.log + s.clients.countP holds ≤ issued s.log)
    (actions : List (Action ε θ ι)) :
    spent (C.run s actions).log + (C.run s actions).clients.countP holds ≤
      issued (C.run s actions).log := by
  induction actions generalizing s with
  | nil => exact hcount
  | cons a actions ih => exact ih (hinvariant.step hs a) (h.step hs hcount a)

/-- An appended entry comes from a move of a client that has the invariant. -/
theorem appends_eq_some {s : State ε θ} {a : Action ε θ ι} {client : θ} {entry : ε}
    (h : C.appends s a = some (client, entry)) :
    client ∈ s.clients ∧ ∃ input, (C.move s.log client input).2 = some entry := by
  cases a with
  | move i input =>
    simp only [appends, Option.bind_eq_some_iff, Option.map_eq_some_iff, Prod.mk.injEq] at h
    obtain ⟨found, hfound, moved, hmoved, rfl, rfl⟩ := h
    exact ⟨List.mem_of_getElem? hfound, input, hmoved⟩
  | join client => cases h
  | foreign entry => cases h

end Clients

/-! One client of a log among many: a call that ends, and that appends at most once. -/
namespace Clients

variable {ε θ ι : Type}

/-- One move of a client: the log that it reads, the client before it, and its input. -/
structure Move (ε θ ι : Type) where
  log : List ε
  client : θ
  input : ι

/-- The move of a client that an action makes. -/
def moveOf (i : Nat) (s : State ε θ) : Action ε θ ι → Option (Move ε θ ι)
  | .move j input => if j = i then s.clients[i]?.map fun client => ⟨s.log, client, input⟩ else none
  | _ => none

variable (C : Clients ε θ ι)

def Move.next (m : Move ε θ ι) : θ := (C.move m.log m.client m.input).1

def Move.entry (m : Move ε θ ι) : Option ε := (C.move m.log m.client m.input).2

/-- The moves of one client in a run. -/
def movesOf (i : Nat) : State ε θ → List (Action ε θ ι) → List (Move ε θ ι)
  | _, [] => []
  | s, a :: as => (moveOf i s a).toList ++ movesOf i (C.step s a) as

/-- What one client appends in a run. -/
def entriesOf (i : Nat) (s : State ε θ) (actions : List (Action ε θ ι)) : List ε :=
  (C.movesOf i s actions).filterMap (Move.entry C)

/-- A call comes closer to its end with every move, ends as it appends, and does nothing
afterwards. -/
structure Ends (left : θ → Nat) : Prop where
  closer : ∀ m : Move ε θ ι, left m.client ≠ 0 → left (m.next C) < left m.client
  still : ∀ m : Move ε θ ι, left m.client = 0 → m.next C = m.client ∧ m.entry C = none
  last : ∀ (m : Move ε θ ι) entry, m.entry C = some entry → left (m.next C) = 0

variable {C} {i : Nat} {s : State ε θ} {actions : List (Action ε θ ι)} {left : θ → Nat}
  {bound : Nat} {client : θ}

/-- An action moves a client, or leaves it as it is. -/
theorem step_client (hclient : s.clients[i]? = some client) (a : Action ε θ ι) :
    (∃ m, moveOf i s a = some m ∧ m.client = client ∧ (C.step s a).clients[i]? = some (m.next C)) ∨
    (moveOf i s a = none ∧ (C.step s a).clients[i]? = some client) := by
  have hlt := (List.getElem?_eq_some_iff.mp hclient).1
  cases a with
  | join other =>
    right
    simp only [Clients.step]
    split_ifs
    · exact ⟨rfl, (List.getElem?_append_left hlt).trans hclient⟩
    · exact ⟨rfl, hclient⟩
  | move j input =>
    by_cases hj : j = i
    · subst hj
      refine .inl ⟨⟨s.log, client, input⟩, by simp [moveOf, hclient], rfl, ?_⟩
      simp only [Clients.step, hclient]
      exact List.getElem?_set_self hlt
    · refine .inr ⟨if_neg hj, ?_⟩
      simp only [Clients.step]
      split
      · exact (List.getElem?_set_ne hj).trans hclient
      · exact hclient
  | foreign entry =>
    right
    simp only [Clients.step]
    split_ifs <;> exact ⟨rfl, hclient⟩

/-- A client that has not joined joins, or it is still to join. -/
theorem step_absent (habsent : s.clients[i]? = none) (a : Action ε θ ι) :
    moveOf i s a = none ∧ ((C.step s a).clients[i]? = none ∨
      ∃ client, C.starts client = true ∧ (C.step s a).clients[i]? = some client) := by
  have hlength := List.getElem?_eq_none_iff.mp habsent
  cases a with
  | join other =>
    refine ⟨rfl, ?_⟩
    simp only [Clients.step]
    split_ifs with hstart
    · rcases Nat.eq_or_lt_of_le hlength with rfl | hlt
      · exact .inr ⟨other, hstart, by simp⟩
      · exact .inl (List.getElem?_eq_none (by simp; omega))
    · exact .inl habsent
  | move j input =>
    refine ⟨by simp [moveOf, habsent], .inl ?_⟩
    simp only [Clients.step]
    split
    · exact List.getElem?_eq_none (by simpa using hlength)
    · exact habsent
  | foreign entry =>
    refine ⟨rfl, .inl ?_⟩
    simp only [Clients.step]
    split_ifs <;> exact habsent

/-- A client that has ended stays as it is. -/
theorem Ends.ended (h : C.Ends left) (hclient : s.clients[i]? = some client)
    (hend : left client = 0) :
    C.entriesOf i s actions = [] ∧ (C.run s actions).clients[i]? = some client ∧
      ((C.movesOf i s actions).filter fun m => left m.client ≠ 0) = [] := by
  induction actions generalizing s with
  | nil => exact ⟨rfl, hclient, rfl⟩
  | cons a actions ih =>
    rcases step_client (C := C) hclient a with ⟨m, hmove, rfl, hnext⟩ | ⟨hmove, hnext⟩
    · obtain ⟨hsame, hquiet⟩ := h.still m hend
      rw [hsame] at hnext
      obtain ⟨hentries, hrun, hmoves⟩ := ih hnext
      refine ⟨?_, hrun, ?_⟩
      · rw [entriesOf, movesOf, hmove, Option.toList_some, List.singleton_append,
          List.filterMap_cons_none hquiet]
        exact hentries
      · rw [movesOf, hmove, Option.toList_some, List.singleton_append, List.filter_cons_of_neg
          (by simpa using hend)]
        exact hmoves
    · rw [entriesOf, movesOf, hmove, Option.toList_none, List.nil_append]
      exact ih hnext

/-- A client appends at most one entry, and then it stays as this move has left it. -/
theorem Ends.entries (h : C.Ends left) : C.entriesOf i s actions = [] ∨
    ∃ m ∈ C.movesOf i s actions, ∃ entry, m.entry C = some entry ∧
      C.entriesOf i s actions = [entry] ∧ (C.run s actions).clients[i]? = some (m.next C) := by
  induction actions generalizing s with
  | nil => exact .inl rfl
  | cons a actions ih =>
    have hlater : moveOf i s a = none → C.entriesOf i s (a :: actions) = [] ∨
        ∃ m ∈ C.movesOf i s (a :: actions), ∃ entry, m.entry C = some entry ∧
          C.entriesOf i s (a :: actions) = [entry] ∧
          (C.run s (a :: actions)).clients[i]? = some (m.next C) := by
      intro hmove
      rw [entriesOf, movesOf, hmove, Option.toList_none, List.nil_append]
      exact ih
    cases hclient : s.clients[i]? with
    | none => exact hlater (step_absent (C := C) hclient a).1
    | some client =>
      rcases step_client (C := C) hclient a with ⟨m, hmove, -, hnext⟩ | ⟨hmove, -⟩
      · have hmoves : C.movesOf i s (a :: actions) = m :: C.movesOf i (C.step s a) actions := by
          rw [movesOf, hmove]
          rfl
        rw [entriesOf, hmoves]
        cases hentry : m.entry C with
        | none =>
          rw [List.filterMap_cons_none hentry]
          rcases ih (s := C.step s a) with hnone | ⟨later, hlater, entry, hfound, hentries, hrun⟩
          · exact .inl hnone
          · exact .inr ⟨later, List.mem_cons_of_mem _ hlater, entry, hfound, hentries, hrun⟩
        | some entry =>
          have hended : C.entriesOf i (C.step s a) actions = [] ∧
              (C.run (C.step s a) actions).clients[i]? = some (m.next C) ∧ _ :=
            h.ended hnext (h.last m entry hentry)
          obtain ⟨hentries, hrun, -⟩ := hended
          rw [List.filterMap_cons_some hentry]
          exact .inr ⟨m, List.mem_cons_self, entry, hentry, congrArg _ hentries, hrun⟩
      · exact hlater hmove

theorem Ends.moves_of_client (h : C.Ends left) (hclient : s.clients[i]? = some client) :
    ((C.movesOf i s actions).filter fun m => left m.client ≠ 0).length ≤ left client := by
  induction actions generalizing s client with
  | nil => exact Nat.zero_le _
  | cons a actions ih =>
    rcases step_client (C := C) hclient a with ⟨m, hmove, rfl, hnext⟩ | ⟨hmove, hnext⟩
    · have hrest := ih hnext
      rw [movesOf, hmove, Option.toList_some, List.singleton_append, List.filter_cons]
      split_ifs with hopen
      · have hcloser := h.closer m (by simpa using hopen)
        rw [List.length_cons]
        omega
      · have hend : left m.client = 0 := by simpa using hopen
        rw [(h.still m hend).1] at hrest
        exact hrest
    · rw [movesOf, hmove, Option.toList_none, List.nil_append]
      exact ih hnext

/-- A client that starts within the bound ends after as many moves. -/
theorem Ends.moves_le (h : C.Ends left) (hstart : ∀ client, C.starts client = true →
    left client ≤ bound) (habsent : s.clients[i]? = none) :
    ((C.movesOf i s actions).filter fun m => left m.client ≠ 0).length ≤ bound := by
  induction actions generalizing s with
  | nil => exact Nat.zero_le _
  | cons a actions ih =>
    obtain ⟨hmove, hnext⟩ := step_absent (C := C) habsent a
    rw [movesOf, hmove, Option.toList_none, List.nil_append]
    rcases hnext with hnext | ⟨client, hjoins, hnext⟩
    · exact ih hnext
    · exact Nat.le_trans (h.moves_of_client hnext) (hstart client hjoins)

/-- The moves of a client in a run with an invariant. -/
theorem Invariant.moves {J : List ε → Prop} {I : List ε → θ → Prop} (h : C.Invariant J I)
    (hs : Holds J I s) : ∀ m ∈ C.movesOf i s actions, J m.log ∧ I m.log m.client := by
  induction actions generalizing s with
  | nil => simp [movesOf]
  | cons a actions ih =>
    intro m hm
    rcases List.mem_append.mp hm with hm | hm
    · cases a with
      | move j input =>
        simp only [moveOf, Option.mem_toList] at hm
        split_ifs at hm
        obtain ⟨client, hclient, rfl⟩ := Option.map_eq_some_iff.mp hm
        exact ⟨hs.1, hs.2 client (List.mem_of_getElem? hclient)⟩
      | join client => cases hm
      | foreign entry => cases hm
    · exact ih (h.step hs a) m hm

end Clients
