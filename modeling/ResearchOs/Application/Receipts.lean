import Mathlib.Data.List.Basic

/-! `ReceiptLog`: reserved effects and command receipts, among the effects themselves. -/
namespace ResearchOs.Application

structure ApplicationError where
  code : String
  message : String
  deriving DecidableEq, Repr

/-- What a workspace commits or does: a row of `operation_effect_intents`, a row of
`operation_receipts`, or a dispatch to a provider, a native process or a restore. -/
inductive Entry where
  | intent (scope contentDigest : String)
  | receipt (commandId requestDigest : String)
  | dispatch (scope contentDigest : String)
  deriving DecidableEq, Repr

abbrev History := List Entry

def Entry.intentDigest? (scope : String) : Entry → Option String
  | .intent s digest => if s = scope then some digest else none
  | _ => none

def Entry.receiptDigest? (commandId : String) : Entry → Option String
  | .receipt id digest => if id = commandId then some digest else none
  | _ => none

/-- `SELECT content_digest FROM operation_effect_intents WHERE scope = ?` -/
def selectIntent (history : History) (scope : String) : Option String :=
  history.findSome? (Entry.intentDigest? scope)

/-- `lookup`: the request digest of a stored receipt. -/
def lookup (history : History) (commandId : String) : Option String :=
  history.findSome? (Entry.receiptDigest? commandId)

/-- Where a statement of a transaction fails. A commit may fail with its rows durable or not. -/
inductive ReceiptFault where
  | before
  | insert
  | commit (durable : Bool)
  deriving DecidableEq, Repr

def intentUnwritable : ApplicationError :=
  ⟨"receipt-unwritable", "dispatch intent could not be recorded"⟩

/-- `reserve_effect`, one immediate transaction. -/
def reserveEffect (history : History) (scope digest : String) (fault : Option ReceiptFault) :
    Except ApplicationError Bool × Option Entry :=
  if fault = some .before then (.error intentUnwritable, none)
  else
    match selectIntent history scope with
    | some bound =>
      if bound ≠ digest then
        (.error ⟨"effect-conflict", "effect identity already binds other material"⟩, none)
      else (.ok false, none)
    | none =>
      match fault with
      | some (.commit durable) =>
        (.error intentUnwritable, if durable then some (.intent scope digest) else none)
      | some _ => (.error intentUnwritable, none)
      | none => (.ok true, some (.intent scope digest))

def receiptUnwritable : ApplicationError :=
  ⟨"receipt-unwritable", "operation receipt could not be recorded"⟩

/-- `append`, one immediate transaction under the primary key of the commands. -/
def appendReceipt (history : History) (commandId requestDigest : String)
    (fault : Option ReceiptFault) : Except ApplicationError Unit × Option Entry :=
  if fault = some .before then (.error receiptUnwritable, none)
  else
    match lookup history commandId, fault with
    | some _, _ => (.error ⟨"receipt-conflict", "command identity was already committed"⟩, none)
    | none, some (.commit durable) =>
      (.error receiptUnwritable, if durable then some (.receipt commandId requestDigest) else none)
    | none, some _ => (.error receiptUnwritable, none)
    | none, none => (.ok (), some (.receipt commandId requestDigest))

def isIntent (scope : String) : Entry → Bool
  | .intent s _ => s = scope
  | _ => false

def isDispatch (scope : String) : Entry → Bool
  | .dispatch s _ => s = scope
  | _ => false

theorem isIntent_iff {scope : String} {entry : Entry} :
    isIntent scope entry = true ↔ (entry.intentDigest? scope).isSome = true := by
  cases entry <;> simp [isIntent, Entry.intentDigest?]

/-- A scope without a row has no intent in the history. -/
theorem countP_intent_of_unbound {history : History} {scope : String}
    (h : selectIntent history scope = none) : history.countP (isIntent scope) = 0 := by
  apply List.countP_eq_zero.mpr
  intro entry hentry hintent
  rw [isIntent_iff, List.findSome?_eq_none_iff.mp h entry hentry] at hintent
  cases hintent

/-- What one `reserve_effect` adds. -/
inductive Reserved (history : History) (scope digest : String) :
    Except ApplicationError Bool × Option Entry → Prop
  | raised (error : ApplicationError) : Reserved history scope digest (.error error, none)
  | uncertain (error : ApplicationError) (hunbound : selectIntent history scope = none) :
      Reserved history scope digest (.error error, some (.intent scope digest))
  | taken (hbound : selectIntent history scope = some digest) :
      Reserved history scope digest (.ok false, none)
  | reserved (hunbound : selectIntent history scope = none) :
      Reserved history scope digest (.ok true, some (.intent scope digest))

theorem reserveEffect_reserved (history : History) (scope digest : String)
    (fault : Option ReceiptFault) :
    Reserved history scope digest (reserveEffect history scope digest fault) := by
  unfold reserveEffect
  split_ifs with hbefore
  · exact .raised _
  · cases hselect : selectIntent history scope with
    | some bound =>
      dsimp only
      split_ifs with hdigest
      · exact .raised _
      · rw [not_not.mp hdigest] at hselect
        exact .taken hselect
    | none =>
      cases fault with
      | none => exact .reserved hselect
      | some fault =>
        cases fault with
        | commit durable =>
          cases durable with
          | true => exact .uncertain _ hselect
          | false => exact .raised _
        | before => exact .raised _
        | insert => exact .raised _

/-- An appended receipt is neither an intent nor a dispatch. -/
theorem appendReceipt_entry {history : History} {commandId requestDigest : String}
    {fault : Option ReceiptFault} {entry : Entry}
    (h : (appendReceipt history commandId requestDigest fault).2 = some entry) :
    entry = .receipt commandId requestDigest := by
  unfold appendReceipt at h
  split_ifs at h
  split at h
  · cases h
  · split_ifs at h
    exact (Option.some.inj h).symm
  · cases h
  · exact (Option.some.inj h).symm

end ResearchOs.Application
