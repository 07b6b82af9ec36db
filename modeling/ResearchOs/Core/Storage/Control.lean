import ResearchOs.Data.FrozenReplay
import ResearchOs.Core.Storage.Log

/-! What the controls over an event log share: the replay of a frozen prefix, and the preflight
of a draft as the event behind it. -/
namespace ResearchOs.Storage

/-- The complaint of `replay_events` about a page. -/
def misplacedText (highWater expected : Nat) : Option Nat → String
  | none => "global event sequence is not contiguous: expected " ++ toString expected ++
      ", found none at or below " ++ toString highWater
  | some found =>
    (if found < expected then "global event sequence is out of order: expected "
      else "global event sequence is not contiguous: expected ") ++ toString expected ++
      ", found " ++ toString found

/-- Why a draft is no event behind a head. -/
inductive PreflightError where
  | notAnObject
  | storeAssigned (names : String)
  | exhausted
  | invalid
  deriving DecidableEq, Repr

/-- The draft completed as the event behind a head. -/
def preflightDraft (frozenHead : Nat) (document : Document) : Except PreflightError ResearchEvent :=
  match document.val with
  | .obj ms =>
    let supplied := storeAssignedFields.filter fun key => (ms.lookup key).isSome
    if supplied ≠ [] then .error (.storeAssigned (namesText supplied))
    else if h : frozenHead < cloudEventsIntegerMax then
      match validateEventDocument (.obj (assigned ms
        ⟨frozenHead + 1, inRange_succ h⟩ firstStreamVersion)) with
      | some event => .ok event
      | none => .error .invalid
    else .error .exhausted
  | _ => .error .notAnObject

variable {log : EventLog} {document : Document} {frozenHead : Nat} {preflight event : ResearchEvent}

/-- What a preflight has established. -/
structure Preflight (frozenHead : Nat) (document : Document) (event : ResearchEvent) : Prop where
  sequence : event.sequence.val = frozenHead + 1
  document : ∃ ms, draftMembers document.val = .ok ms ∧
    validateEventDocument (.obj (assigned ms event.sequence event.streamversion)) = some event

theorem preflightDraft_ok (h : preflightDraft frozenHead document = .ok preflight) :
    Preflight frozenHead document preflight := by
  unfold preflightDraft at h
  split at h
  · rename_i ms hdocument
    dsimp only at h
    split_ifs at h with hsupplied hhead
    split at h
    · rename_i found hvalid
      cases h
      obtain ⟨hsequence, hversion⟩ := place_of_validate hvalid
      refine ⟨congrArg Subtype.val hsequence, ms, ?_, ?_⟩
      · rw [hdocument]
        exact if_pos (not_not.mp hsupplied)
      · rw [hsequence, hversion]
        exact hvalid
    · cases h
  · cases h

/-- What the store adds behind the head is the preflight event, but for its stream version. -/
theorem Preflight.added {expectedHead : Option Nat} (h : Preflight log.length document preflight)
    (hadded : log.Added document expectedHead event) :
    event = preflight.placed preflight.sequence event.streamversion := by
  obtain ⟨ms, hms, hvalid⟩ := h.document
  obtain ⟨ms', hms', hvalid'⟩ := hadded.document
  rw [hms] at hms'
  cases hms'
  have hsame : event.sequence = preflight.sequence := by
    apply Subtype.ext
    rw [hadded.sequence, h.sequence]
  rw [validate_assigned ms _ preflight.sequence _ preflight.streamversion, hvalid, hsame] at hvalid'
  exact (Option.some.inj hvalid').symm

/-- The store appends what has passed the preflight, if its id is new and its stream has room. -/
theorem Preflight.append (h : Preflight log.length document preflight)
    (hfresh : ∀ earlier ∈ log, earlier.id ≠ preflight.id)
    (hroom : log.nextStreamVersion preflight.streamid.val ≤ cloudEventsIntegerMax) :
    log.append document (some log.length) = .ok (preflight.placed preflight.sequence
      ⟨log.nextStreamVersion preflight.streamid.val, inRange_zero hroom⟩) := by
  obtain ⟨ms, hms, hvalid⟩ := h.document
  have hpreflight : preflightEvent ms = .ok (preflight.placed firstSequence firstStreamVersion) := by
    unfold preflightEvent
    rw [validate_assigned ms firstSequence preflight.sequence firstStreamVersion
      preflight.streamversion, hvalid]
    rfl
  have hid : log.requireNewEventId preflight.id.val = .ok () := by
    apply if_neg
    intro hany
    obtain ⟨earlier, hearlier, hsame⟩ := List.any_eq_true.mp hany
    exact hfresh earlier hearlier (Subtype.ext (by simpa using hsame))
  have hlast : log.allocateSequence = .ok preflight.sequence := by
    have hmax := preflight.sequence.le_max
    have hsequence := h.sequence
    rw [EventLog.allocateSequence, dif_pos (by omega)]
    exact congrArg Except.ok (Subtype.ext hsequence.symm)
  have hversion : log.allocateStreamVersion preflight.streamid.val =
      .ok ⟨log.nextStreamVersion preflight.streamid.val,
        inRange_zero hroom⟩ := dif_pos hroom
  simp only [EventLog.append, hms, hpreflight, ResearchEvent.placed, bind, Except.bind, hid,
    EventLog.requireExpectedHead, if_true, hlast, hversion]

end ResearchOs.Storage
