import ResearchOs.Application.Receipts
import ResearchOs.Data.Clients

/-! `ApplicationService.execute` for the operations that reserve an external effect. -/
namespace ResearchOs.Application

inductive ModelKind where
  | inspect
  | generate
  | observe
  deriving DecidableEq, Repr

inductive NativeKind where
  | start
  | restore
  | observe
  | inspect
  deriving DecidableEq, Repr

inductive BackupKind where
  | verify
  | restore
  deriving DecidableEq, Repr

/-- The operations with an effect scope; `other` stands for those that reserve nothing. -/
inductive Operation where
  | model (kind : ModelKind) (materialDigest : Option String)
  | native (kind : NativeKind) (materialDigest : Option String)
  | backup (kind : BackupKind) (destinationId : String)
  | other

structure ApplicationCommand where
  commandId : String
  expectedRevision : Option Nat
  operation : Operation

/-- What a model profile freezes to. -/
structure ModelContext where
  projectId : String
  callId : String
  experimentRevision : Nat
  digest : String

/-- What a native profile freezes to; a restore profile carries a claim. -/
structure NativeContext where
  projectId : String
  runId : String
  revision : Nat
  hasClaim : Bool
  digest : String

structure FrozenOperation where
  model : Option ModelContext
  native : Option NativeContext
  backupDigest : Option String

/-- `_require_revision` -/
def requireRevision (actual : Nat) (expected : Option Nat) : Except ApplicationError Unit :=
  match expected with
  | none => .ok ()
  | some revision =>
    if actual ≠ revision then
      .error ⟨"stale-revision", "revision " ++ toString actual ++
        " does not match expectedRevision " ++ toString revision⟩
    else .ok ()

def requireApplication (condition : Prop) [Decidable condition] (code message : String) :
    Except ApplicationError Unit :=
  if condition then .ok () else .error ⟨code, message⟩

/-- The scope and the material that an operation is about to reserve, after its own checks;
`gates` are the citation and secret checks of a model call. -/
def reservation (command : ApplicationCommand) (frozen : FrozenOperation)
    (gates : Except ApplicationError Unit) : Except ApplicationError (Option (String × String)) :=
  match command.operation with
  | .model .generate materialDigest =>
    match frozen.model with
    | none => .error ⟨"model-profile-invalid", "model profile is missing"⟩
    | some context => do
      requireRevision context.experimentRevision command.expectedRevision
      requireApplication (materialDigest = some context.digest) "model-material-changed"
        "inspect the current model profile before dispatch"
      gates
      .ok (some ("model:" ++ context.projectId ++ ":" ++ context.callId, context.digest))
  | .native kind materialDigest =>
    if kind = .start ∨ kind = .restore then
      match frozen.native with
      | none => .error ⟨"operation-unsupported", "native context is missing"⟩
      | some context => do
        requireApplication (materialDigest = some context.digest) "native-material-changed"
          "inspect the current profile before dispatch"
        requireRevision context.revision command.expectedRevision
        requireApplication (decide (kind = .restore) = context.hasClaim) "restore-prerequisite"
          "select the matching start or restore profile"
        .ok (some ("native:" ++ context.projectId ++ ":" ++ context.runId, context.digest))
    else .ok none
  | .backup .restore destinationId =>
    .ok (some ("backup:" ++ destinationId, frozen.backupDigest.getD ""))
  | .backup .verify _ => .ok none
  | .model _ _ => .ok none
  | .other => .ok none

/-- Where a command stands. The steps between two phases may be cut off by a crash: a command
that has crashed never moves again. -/
inductive Phase where
  | frozen
  | performing
  | reserving (scope digest : String)
  | dispatching (scope digest : String)
  | recording
  | returned
  | replayed
  | raised (error : ApplicationError)

structure Command where
  command : ApplicationCommand
  material : FrozenOperation
  requestDigest : String
  phase : Phase

/-- What a command reads and meets while it takes a step. -/
structure Conditions where
  head : Except ApplicationError Unit
  gates : Except ApplicationError Unit
  fault : Option ReceiptFault
  outcome : Except ApplicationError Unit

def receiptConflict : ApplicationError :=
  ⟨"receipt-conflict", "command identity was already committed with different content"⟩

/-- The next phase after a step that may raise. -/
def proceed (result : Except ApplicationError Unit) (next : Phase) : Phase :=
  match result with
  | .ok () => next
  | .error error => .raised error

/-- `execute`, one step: the receipt lookup and the head check, the checks of the operation, the
reservation, the dispatch, the receipt. -/
def advance (history : History) (command : Command) (conditions : Conditions) :
    Phase × Option Entry :=
  match command.phase with
  | .frozen =>
    match lookup history command.command.commandId with
    | some prior =>
      if prior ≠ command.requestDigest then (.raised receiptConflict, none) else (.replayed, none)
    | none => (proceed conditions.head .performing, none)
  | .performing =>
    match reservation command.command command.material conditions.gates with
    | .error error => (.raised error, none)
    | .ok none => (proceed conditions.outcome .recording, none)
    | .ok (some (scope, digest)) => (.reserving scope digest, none)
  | .reserving scope digest =>
    match reserveEffect history scope digest conditions.fault with
    | (.error error, entry) => (.raised error, entry)
    | (.ok false, entry) => (proceed conditions.outcome .recording, entry)
    | (.ok true, entry) => (.dispatching scope digest, entry)
  | .dispatching scope digest =>
    (proceed conditions.outcome .recording, some (.dispatch scope digest))
  | .recording =>
    match appendReceipt history command.command.commandId command.requestDigest
        conditions.fault with
    | (result, entry) => (proceed result .returned, entry)
  | .returned => (.returned, none)
  | .replayed => (.replayed, none)
  | .raised error => (.raised error, none)

/-- The commands of one workspace. -/
def commands : Clients Entry Command Conditions where
  starts command :=
    match command.phase with
    | .frozen => true
    | _ => false
  admits _ _ := false
  move history command conditions :=
    ({ command with phase := (advance history command conditions).1 },
      (advance history command conditions).2)

/-- A command that has reserved the scope and is about to dispatch. -/
def dispatches (scope : String) (command : Command) : Bool :=
  match command.phase with
  | .dispatching s _ => s = scope
  | _ => false

/-- One step of a command, by what it appends. -/
inductive Step (history : History) (command : Command) : Phase → Option Entry → Prop
  | silent (next : Phase) (hnext : ∀ scope digest, next ≠ .dispatching scope digest)
      (hphase : ∀ scope digest, command.phase ≠ .dispatching scope digest) :
      Step history command next none
  | uncertain {scope digest : String} (error : ApplicationError)
      (hphase : command.phase = .reserving scope digest)
      (hunbound : selectIntent history scope = none) :
      Step history command (.raised error) (some (.intent scope digest))
  | reserved {scope digest : String} (hphase : command.phase = .reserving scope digest)
      (hunbound : selectIntent history scope = none) :
      Step history command (.dispatching scope digest) (some (.intent scope digest))
  | dispatched {scope digest : String} (next : Phase)
      (hphase : command.phase = .dispatching scope digest)
      (hnext : ∀ scope digest, next ≠ .dispatching scope digest) :
      Step history command next (some (.dispatch scope digest))
  | recorded {commandId requestDigest : String} (next : Phase)
      (hphase : command.phase = .recording)
      (hnext : ∀ scope digest, next ≠ .dispatching scope digest) :
      Step history command next (some (.receipt commandId requestDigest))

theorem proceed_ne_dispatching {result : Except ApplicationError Unit} {next : Phase}
    (h : ∀ scope digest, next ≠ .dispatching scope digest) :
    ∀ scope digest, proceed result next ≠ .dispatching scope digest := by
  intro scope digest
  cases result with
  | ok _ => exact h scope digest
  | error error => exact Phase.noConfusion

theorem advance_step (history : History) (command : Command) (conditions : Conditions) :
    Step history command (advance history command conditions).1
      (advance history command conditions).2 := by
  have hrecording : ∀ scope digest, Phase.recording ≠ .dispatching scope digest :=
    fun _ _ => Phase.noConfusion
  unfold advance
  cases hphase : command.phase with
  | frozen =>
    have hother : ∀ scope digest, command.phase ≠ .dispatching scope digest := by simp [hphase]
    dsimp only
    split
    · split_ifs
      · exact .silent _ (fun _ _ => Phase.noConfusion) hother
      · exact .silent _ (fun _ _ => Phase.noConfusion) hother
    · exact .silent _ (proceed_ne_dispatching fun _ _ => Phase.noConfusion) hother
  | performing =>
    have hother : ∀ scope digest, command.phase ≠ .dispatching scope digest := by simp [hphase]
    dsimp only
    split
    · exact .silent _ (fun _ _ => Phase.noConfusion) hother
    · exact .silent _ (proceed_ne_dispatching hrecording) hother
    · exact .silent _ (fun _ _ => Phase.noConfusion) hother
  | reserving scope digest =>
    have hother : ∀ scope digest, command.phase ≠ .dispatching scope digest := by simp [hphase]
    have hreserved := reserveEffect_reserved history scope digest conditions.fault
    dsimp only
    generalize reserveEffect history scope digest conditions.fault = result at hreserved
    cases hreserved with
    | raised error => exact .silent _ (fun _ _ => Phase.noConfusion) hother
    | uncertain error hunbound => exact .uncertain error hphase hunbound
    | taken hbound => exact .silent _ (proceed_ne_dispatching hrecording) hother
    | reserved hunbound => exact .reserved hphase hunbound
  | dispatching scope digest =>
    exact .dispatched _ hphase (proceed_ne_dispatching hrecording)
  | recording =>
    have hother : ∀ scope digest, command.phase ≠ .dispatching scope digest := by simp [hphase]
    have hreturned : ∀ scope digest, Phase.returned ≠ .dispatching scope digest :=
      fun _ _ => Phase.noConfusion
    dsimp only
    cases hentry : (appendReceipt history command.command.commandId command.requestDigest
        conditions.fault).2 with
    | none => exact .silent _ (proceed_ne_dispatching hreturned) hother
    | some entry =>
      rw [appendReceipt_entry hentry]
      exact .recorded _ hphase (proceed_ne_dispatching hreturned)
  | returned => exact .silent _ (fun _ _ => Phase.noConfusion) (by simp [hphase])
  | replayed => exact .silent _ (fun _ _ => Phase.noConfusion) (by simp [hphase])
  | raised error => exact .silent _ (fun _ _ => Phase.noConfusion) (by simp [hphase])

/-- Every scope is bound once, and every dispatch is of the material that its scope is bound to. -/
structure Bound (history : History) : Prop where
  once : ∀ scope, history.countP (isIntent scope) ≤ 1
  dispatched : ∀ scope digest, Entry.dispatch scope digest ∈ history →
    Entry.intent scope digest ∈ history

/-- A command about to dispatch has its scope bound to its material. -/
def Command.Bound (history : History) (command : Command) : Prop :=
  ∀ scope digest, command.phase = .dispatching scope digest → Entry.intent scope digest ∈ history

theorem Bound.concat_intent {history : History} {scope digest : String} (h : Bound history)
    (hunbound : selectIntent history scope = none) :
    Bound (history ++ [.intent scope digest]) where
  once s := by
    rw [List.countP_append]
    by_cases hs : scope = s
    · rw [← hs, countP_intent_of_unbound hunbound]
      simp [isIntent]
    · simpa [isIntent, hs] using h.once s
  dispatched s d hmem := by
    rcases List.mem_append.mp hmem with hmem | hmem
    · exact List.mem_append_left _ (h.dispatched s d hmem)
    · cases List.mem_singleton.mp hmem

theorem commands_invariant : commands.Invariant Bound Command.Bound where
  mono history entry command hcommand scope digest hphase :=
    List.mem_append_left _ (hcommand scope digest hphase)
  start history command hstart scope digest hphase := by
    simp [commands, hphase] at hstart
  foreign history entry hhistory hadmits := by cases hadmits
  move history command conditions hhistory hcommand := by
    have hstep := advance_step history command conditions
    change Bound (history ++ (advance history command conditions).2.toList) ∧
      Command.Bound (history ++ (advance history command conditions).2.toList)
        { command with phase := (advance history command conditions).1 }
    generalize (advance history command conditions).1 = next at hstep
    generalize (advance history command conditions).2 = entry at hstep
    cases hstep with
    | silent _ hnext hphase =>
      rw [Option.toList_none, List.append_nil]
      exact ⟨hhistory, fun scope digest heq => (hnext scope digest heq).elim⟩
    | uncertain error hphase hunbound =>
      exact ⟨hhistory.concat_intent hunbound, fun scope digest heq => Phase.noConfusion heq⟩
    | reserved hphase hunbound =>
      refine ⟨hhistory.concat_intent hunbound, fun scope digest heq => ?_⟩
      cases heq
      exact List.mem_append_right _ (List.mem_singleton.mpr rfl)
    | @dispatched scope digest _ hphase hnext =>
      have hintent := hcommand scope digest hphase
      refine ⟨⟨fun s => ?_, fun s d hmem => ?_⟩, fun s d heq => (hnext s d heq).elim⟩
      · simpa [List.countP_append, isIntent] using hhistory.once s
      · rcases List.mem_append.mp hmem with hmem | hmem
        · exact List.mem_append_left _ (hhistory.dispatched s d hmem)
        · cases List.mem_singleton.mp hmem
          exact List.mem_append_left _ hintent
    | recorded _ hphase hnext =>
      refine ⟨⟨fun s => ?_, fun s d hmem => ?_⟩, fun s d heq => (hnext s d heq).elim⟩
      · simpa [List.countP_append, isIntent] using hhistory.once s
      · rcases List.mem_append.mp hmem with hmem | hmem
        · exact List.mem_append_left _ (hhistory.dispatched s d hmem)
        · cases List.mem_singleton.mp hmem

/-- A reservation is the right to one dispatch. -/
theorem commands_tickets (scope : String) :
    commands.Tickets Bound Command.Bound (fun history => history.countP (isIntent scope))
      (fun history => history.countP (isDispatch scope)) (dispatches scope) where
  start command hstart := by
    simp only [commands] at hstart
    unfold dispatches
    cases hphase : command.phase <;> simp_all
  foreign history entry hadmits := by cases hadmits
  move history command conditions _ _ := by
    have hstep := advance_step history command conditions
    change (history ++ (advance history command conditions).2.toList).countP (isDispatch scope) +
        (dispatches scope { command with phase := (advance history command conditions).1 }).toNat +
        history.countP (isIntent scope) ≤
      history.countP (isDispatch scope) + (dispatches scope command).toNat +
        (history ++ (advance history command conditions).2.toList).countP (isIntent scope)
    generalize (advance history command conditions).1 = next at hstep
    generalize (advance history command conditions).2 = entry at hstep
    have hidle : (∀ s d, next ≠ .dispatching s d) →
        dispatches scope { command with phase := next } = false := by
      intro hnext
      cases next <;> simp_all [dispatches]
    cases hstep with
    | silent _ hnext hphase =>
      rw [hidle hnext, Option.toList_none, List.append_nil]
      simp
    | uncertain error hphase hunbound =>
      have hbefore : dispatches scope command = false := by simp [dispatches, hphase]
      have hafter : dispatches scope { command with phase := .raised error } = false := rfl
      rw [hbefore, hafter]
      simp [List.countP_append, isDispatch]
    | @reserved s d hphase hunbound =>
      have hbefore : dispatches scope command = false := by simp [dispatches, hphase]
      have hafter : dispatches scope { command with phase := .dispatching s d } =
          decide (s = scope) := rfl
      rw [hbefore, hafter]
      by_cases hs : s = scope
      · simp only [hs, decide_true, Bool.toNat_true, Option.toList_some, List.countP_append,
          List.countP_singleton, isDispatch, isIntent]
        simp only [Bool.false_eq_true, if_false, if_true]
        omega
      · simp [List.countP_append, isDispatch, isIntent, hs]
    | @dispatched s d _ hphase hnext =>
      have hbefore : dispatches scope command = decide (s = scope) := by simp [dispatches, hphase]
      rw [hidle hnext, hbefore]
      by_cases hs : s = scope <;> simp [List.countP_append, isDispatch, isIntent, hs]
    | recorded _ hphase hnext =>
      rw [hidle hnext]
      simp [List.countP_append, isDispatch, isIntent]

theorem eq_of_countP_le_one {α : Type} {p : α → Bool} {items : List α} {a b : α}
    (hcount : items.countP p ≤ 1) (ha : a ∈ items) (hb : b ∈ items) (hpa : p a = true)
    (hpb : p b = true) : a = b := by
  obtain ⟨i, hi⟩ := List.mem_iff_getElem?.mp ha
  obtain ⟨j, hj⟩ := List.mem_iff_getElem?.mp hb
  obtain rfl := Clients.eq_of_countP_le_one hcount hi hj hpa hpb
  exact Option.some.inj (hi.symm.trans hj)

/-- At most one command of a scope gets past the reservation, and no scope is bound twice. -/
theorem effect_dispatched_once (actions : List (Clients.Action Entry Command Conditions))
    (scope : String) :
    (commands.run ⟨[], []⟩ actions).log.countP (isDispatch scope) +
        (commands.run ⟨[], []⟩ actions).clients.countP (dispatches scope) ≤ 1 ∧
      (commands.run ⟨[], []⟩ actions).log.countP (isIntent scope) ≤ 1 ∧
      (∀ digest digest', Entry.intent scope digest ∈ (commands.run ⟨[], []⟩ actions).log →
        Entry.intent scope digest' ∈ (commands.run ⟨[], []⟩ actions).log → digest = digest') ∧
      ∀ digest, Entry.dispatch scope digest ∈ (commands.run ⟨[], []⟩ actions).log →
        Entry.intent scope digest ∈ (commands.run ⟨[], []⟩ actions).log := by
  have hempty : Clients.Holds Bound Command.Bound (⟨[], []⟩ : Clients.State Entry Command) :=
    ⟨⟨by simp, by simp⟩, by simp⟩
  have hholds := commands_invariant.run hempty actions
  have htickets := (commands_tickets scope).run commands_invariant hempty (by simp) actions
  have honce := hholds.1.once scope
  refine ⟨by omega, honce, ?_, hholds.1.dispatched scope⟩
  intro digest digest' hdigest hdigest'
  have heq := eq_of_countP_le_one honce hdigest hdigest' (by simp [isIntent]) (by simp [isIntent])
  exact (Entry.intent.inj heq).2

end ResearchOs.Application
