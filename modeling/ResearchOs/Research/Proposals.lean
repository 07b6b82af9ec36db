import ResearchOs.Research.Step

/-! The states of the proposals of a ledger follow from its decisions. -/
namespace ResearchOs.Research

/-- The moves of a proposal. -/
inductive Moves : ProposalRevisionState → ProposalRevisionState → Prop
  | accept : Moves .proposed .accepted
  | reject : Moves .proposed .rejected
  | supersede : Moves .accepted .superseded

/-- A later entry of the same proposal. -/
structure Follows (proposal later : ProposalLedgerEntry) : Prop where
  proposalId : later.proposalId = proposal.proposalId
  baseRevision : later.baseRevision = proposal.baseRevision
  state : later.revisionState = proposal.revisionState ∨
    Moves proposal.revisionState later.revisionState

/-- What a fact does to the list of proposals. -/
def Moved (before after : List ProposalLedgerEntry) : Prop :=
  ∃ moved added, after = moved ++ added ∧ List.Forall₂ Follows before moved ∧
    ∀ proposal ∈ added, proposal.revisionState = .proposed

def Accepts (decision : DecisionLedgerEntry) (proposal : ProposalLedgerEntry) : Prop :=
  decision.targetKind = .proposal ∧ decision.outcome = .accept ∧
    decision.targetId = proposal.proposalId

/-- The second proposal is accepted after the first one. -/
def AcceptedBefore (decisions : List DecisionLedgerEntry) (first second : ProposalLedgerEntry) :
    Prop :=
  ∃ earlier later, [earlier, later].Sublist decisions ∧ Accepts earlier first ∧
    Accepts later second

/-- A later accepted proposal has a higher base revision. -/
def Overtaken (proposals : List ProposalLedgerEntry) (decisions : List DecisionLedgerEntry)
    (proposal : ProposalLedgerEntry) : Prop :=
  ∃ other ∈ proposals, AcceptedBefore decisions proposal other ∧
    proposal.baseRevision.val < other.baseRevision.val

section

variable {payload : DecisionRecordedPayload} {target proposal other : ProposalLedgerEntry}
  {proposals : List ProposalLedgerEntry} {decisions : List DecisionLedgerEntry}
  {decision : DecisionLedgerEntry}

@[simp] theorem decideProposal_proposalId :
    (decideProposal payload target proposal).proposalId = proposal.proposalId := by
  unfold decideProposal
  split_ifs <;> rfl

@[simp] theorem decideProposal_baseRevision :
    (decideProposal payload target proposal).baseRevision = proposal.baseRevision := by
  unfold decideProposal
  split_ifs <;> rfl

@[simp] theorem accepts_decideProposal :
    Accepts decision (decideProposal payload target proposal) ↔ Accepts decision proposal := by
  simp [Accepts]

theorem pair_sublist_concat {α : Type} {a b c : α} {items : List α} :
    [a, b].Sublist (items ++ [c]) ↔ [a, b].Sublist items ∨ (a ∈ items ∧ b = c) := by
  constructor
  · intro h
    obtain ⟨front, back, hsplit, hfront, hback⟩ := List.sublist_append_iff.mp h
    cases hback with
    | cons _ hnil =>
      cases hnil
      rw [List.append_nil] at hsplit
      exact .inl (hsplit ▸ hfront)
    | cons_cons _ hnil =>
      cases hnil
      have hsame : front = [a] ∧ b = c := by
        have hlast : [a] ++ [b] = front ++ [c] := hsplit
        simpa [eq_comm] using List.append_inj' hlast rfl
      obtain ⟨rfl, rfl⟩ := hsame
      exact .inr ⟨List.singleton_sublist.mp hfront, rfl⟩
  · rintro (h | ⟨ha, rfl⟩)
    · exact h.trans (List.sublist_append_left _ _)
    · exact (List.singleton_sublist.mpr ha).append (List.Sublist.refl [b])

/-- A new decision comes after all the others. -/
theorem acceptedBefore_concat :
    AcceptedBefore (decisions ++ [decision]) proposal other ↔
      AcceptedBefore decisions proposal other ∨
        ((∃ earlier ∈ decisions, Accepts earlier proposal) ∧ Accepts decision other) := by
  constructor
  · rintro ⟨earlier, later, hsublist, hfirst, hsecond⟩
    rcases pair_sublist_concat.mp hsublist with hsublist | ⟨hearlier, rfl⟩
    · exact .inl ⟨earlier, later, hsublist, hfirst, hsecond⟩
    · exact .inr ⟨⟨earlier, hearlier, hfirst⟩, hsecond⟩
  · rintro (⟨earlier, later, hsublist, hfirst, hsecond⟩ | ⟨⟨earlier, hearlier, hfirst⟩, hsecond⟩)
    · exact ⟨earlier, later, pair_sublist_concat.mpr (.inl hsublist), hfirst, hsecond⟩
    · exact ⟨earlier, decision, pair_sublist_concat.mpr (.inr ⟨hearlier, rfl⟩), hfirst, hsecond⟩

theorem overtaken_concat :
    Overtaken proposals (decisions ++ [decision]) proposal ↔
      Overtaken proposals decisions proposal ∨
        ((∃ earlier ∈ decisions, Accepts earlier proposal) ∧ ∃ other ∈ proposals,
          Accepts decision other ∧ proposal.baseRevision.val < other.baseRevision.val) := by
  constructor
  · rintro ⟨other, hother, hbefore, hrevision⟩
    rcases acceptedBefore_concat.mp hbefore with hbefore | ⟨hfirst, hsecond⟩
    · exact .inl ⟨other, hother, hbefore, hrevision⟩
    · exact .inr ⟨hfirst, other, hother, hsecond, hrevision⟩
  · rintro (⟨other, hother, hbefore, hrevision⟩ | ⟨hfirst, other, hother, hsecond, hrevision⟩)
    · exact ⟨other, hother, acceptedBefore_concat.mpr (.inl hbefore), hrevision⟩
    · exact ⟨other, hother, acceptedBefore_concat.mpr (.inr ⟨hfirst, hsecond⟩), hrevision⟩

theorem Overtaken.accepted (h : Overtaken proposals decisions proposal) :
    ∃ earlier ∈ decisions, Accepts earlier proposal := by
  obtain ⟨_, -, ⟨earlier, later, hsublist, hfirst, -⟩, -⟩ := h
  exact ⟨earlier, hsublist.subset List.mem_cons_self, hfirst⟩

/-- Deciding proposals changes no id and no base revision. -/
theorem overtaken_decided :
    Overtaken (proposals.map (decideProposal payload target)) decisions
      (decideProposal payload target proposal) ↔ Overtaken proposals decisions proposal := by
  simp [Overtaken, AcceptedBefore]

/-- A proposal that no decision names is overtaken by none. -/
theorem overtaken_append_proposal {added : ProposalLedgerEntry}
    (hunnamed : ∀ decision ∈ decisions, ¬ Accepts decision added) :
    Overtaken (proposals ++ [added]) decisions proposal ↔
      Overtaken proposals decisions proposal := by
  constructor
  · rintro ⟨other, hother, hbefore, hrevision⟩
    rcases List.mem_append.mp hother with hother | hother
    · exact ⟨other, hother, hbefore, hrevision⟩
    · cases List.mem_singleton.mp hother
      obtain ⟨earlier, later, hsublist, -, hsecond⟩ := hbefore
      have hlater : later ∈ decisions := hsublist.subset (by simp)
      exact (hunnamed later hlater hsecond).elim
  · rintro ⟨other, hother, hbefore, hrevision⟩
    exact ⟨other, List.mem_append_left _ hother, hbefore, hrevision⟩

/-- The states of the proposals follow from the decisions. -/
structure ProposalsKept (proposals : List ProposalLedgerEntry)
    (decisions : List DecisionLedgerEntry) : Prop where
  unvalidated : ∀ proposal ∈ proposals, proposal.revisionState ≠ .validated
  accepted : ∀ proposal ∈ proposals, (∃ decision ∈ decisions, Accepts decision proposal) ↔
    proposal.revisionState = .accepted ∨ proposal.revisionState = .superseded
  superseded : ∀ proposal ∈ proposals, proposal.revisionState = .superseded ↔
    Overtaken proposals decisions proposal

theorem ProposalsKept.submit {added : ProposalLedgerEntry} (h : ProposalsKept proposals decisions)
    (hstate : added.revisionState = .proposed)
    (hunnamed : ∀ decision ∈ decisions, ¬ Accepts decision added) :
    ProposalsKept (proposals ++ [added]) decisions where
  unvalidated := by
    intro proposal hproposal
    rcases List.mem_append.mp hproposal with hproposal | hproposal
    · exact h.unvalidated proposal hproposal
    · cases List.mem_singleton.mp hproposal
      rw [hstate]
      decide
  accepted := by
    intro proposal hproposal
    rcases List.mem_append.mp hproposal with hproposal | hproposal
    · exact h.accepted proposal hproposal
    · cases List.mem_singleton.mp hproposal
      rw [hstate]
      simpa using hunnamed
  superseded := by
    intro proposal hproposal
    rw [overtaken_append_proposal hunnamed]
    rcases List.mem_append.mp hproposal with hproposal | hproposal
    · exact h.superseded proposal hproposal
    · cases List.mem_singleton.mp hproposal
      rw [hstate]
      constructor
      · intro hne
        cases hne
      · intro hovertaken
        obtain ⟨decision, hdecision, haccepts⟩ := hovertaken.accepted
        exact (hunnamed decision hdecision haccepts).elim

/-- A decision that accepts nothing changes no accepted proposal. -/
theorem ProposalsKept.pass (h : ProposalsKept proposals decisions)
    (hpass : ∀ proposal, ¬ Accepts decision proposal) :
    ProposalsKept proposals (decisions ++ [decision]) where
  unvalidated := h.unvalidated
  accepted := by
    intro proposal hproposal
    rw [← h.accepted proposal hproposal]
    simp [hpass]
  superseded := by
    intro proposal hproposal
    rw [h.superseded proposal hproposal, overtaken_concat]
    simp [hpass]

theorem eq_of_proposalId (hunique : (proposals.map (·.proposalId)).Nodup)
    (hproposal : proposal ∈ proposals) (hother : other ∈ proposals)
    (h : proposal.proposalId = other.proposalId) : proposal = other :=
  List.inj_on_of_nodup_map hunique hproposal hother h

theorem accepts_decisionEntry {event : ResearchEvent} (hkind : payload.targetKind = .proposal) :
    Accepts (decisionEntry event payload) proposal ↔
      payload.outcome = .accept ∧ payload.targetId = proposal.proposalId := by
  simp [Accepts, decisionEntry, hkind]

/-- The target of a decision was open, so that no decision has accepted it. -/
theorem ProposalsKept.not_accepted (h : ProposalsKept proposals decisions)
    (htarget : target ∈ proposals)
    (hopen : target.revisionState = .proposed ∨ target.revisionState = .validated) :
    ¬ ∃ decision ∈ decisions, Accepts decision target := by
  rw [h.accepted target htarget]
  rcases hopen with hopen | hopen <;> simp [hopen]

theorem ProposalsKept.reject {event : ResearchEvent} (h : ProposalsKept proposals decisions)
    (hunique : (proposals.map (·.proposalId)).Nodup) (hkind : payload.targetKind = .proposal)
    (houtcome : payload.outcome = .reject) (htarget : target ∈ proposals)
    (hid : target.proposalId = payload.targetId)
    (hopen : target.revisionState = .proposed ∨ target.revisionState = .validated) :
    ProposalsKept (proposals.map (decideProposal payload target))
      (decisions ++ [decisionEntry event payload]) := by
  have hpass : ∀ proposal, ¬ Accepts (decisionEntry event payload) proposal := by
    simp [accepts_decisionEntry hkind, houtcome]
  have hkept := h.pass hpass
  have hnone := hkept.not_accepted htarget hopen
  have hstate : ∀ proposal ∈ proposals, proposal = target ∧
      (decideProposal payload target proposal).revisionState = .rejected ∨
      decideProposal payload target proposal = proposal := by
    intro proposal hproposal
    by_cases hsame : proposal.proposalId = payload.targetId
    · refine .inl ⟨eq_of_proposalId hunique hproposal htarget (hsame.trans hid.symm), ?_⟩
      simp [decideProposal, hsame, houtcome]
    · refine .inr ?_
      simp [decideProposal, hsame, houtcome]
  constructor
  · intro decided hdecided
    obtain ⟨proposal, hproposal, rfl⟩ := List.mem_map.mp hdecided
    rcases hstate proposal hproposal with ⟨-, hrejected⟩ | hsame
    · rw [hrejected]
      decide
    · rw [hsame]
      exact hkept.unvalidated proposal hproposal
  · intro decided hdecided
    obtain ⟨proposal, hproposal, rfl⟩ := List.mem_map.mp hdecided
    simp only [accepts_decideProposal]
    rcases hstate proposal hproposal with ⟨rfl, hrejected⟩ | hsame
    · rw [hrejected]
      exact ⟨fun haccepted => (hnone haccepted).elim, by simp⟩
    · rw [hsame]
      exact hkept.accepted proposal hproposal
  · intro decided hdecided
    obtain ⟨proposal, hproposal, rfl⟩ := List.mem_map.mp hdecided
    rw [overtaken_decided]
    rcases hstate proposal hproposal with ⟨rfl, hrejected⟩ | hsame
    · rw [hrejected]
      exact ⟨by simp, fun hovertaken => (hnone hovertaken.accepted).elim⟩
    · rw [hsame]
      exact hkept.superseded proposal hproposal

/-- The state of another proposal when its rival is accepted. -/
theorem decideProposal_other (houtcome : payload.outcome = .accept)
    (hother : proposal.proposalId ≠ payload.targetId) :
    (decideProposal payload target proposal).revisionState =
      if proposal.revisionState = .accepted ∧
        proposal.baseRevision.val < target.baseRevision.val then .superseded
      else proposal.revisionState := by
  simp only [decideProposal, hother, if_false, houtcome, true_and]
  split_ifs <;> rfl

theorem decideProposal_target (houtcome : payload.outcome = .accept)
    (hid : target.proposalId = payload.targetId) :
    (decideProposal payload target target).revisionState = .accepted := by
  simp [decideProposal, hid, houtcome]

/-- An accepted target overtakes what an earlier decision has accepted at a lower revision. -/
theorem overtaken_accept {event : ResearchEvent} (h : ProposalsKept proposals decisions)
    (hunique : (proposals.map (·.proposalId)).Nodup) (hkind : payload.targetKind = .proposal)
    (houtcome : payload.outcome = .accept) (htarget : target ∈ proposals)
    (hid : target.proposalId = payload.targetId) (hproposal : proposal ∈ proposals) :
    Overtaken proposals (decisions ++ [decisionEntry event payload]) proposal ↔
      proposal.revisionState = .superseded ∨
        ((proposal.revisionState = .accepted ∨ proposal.revisionState = .superseded) ∧
          proposal.baseRevision.val < target.baseRevision.val) := by
  rw [overtaken_concat, ← h.superseded proposal hproposal, h.accepted proposal hproposal]
  refine or_congr_right (and_congr_right fun _ => ?_)
  constructor
  · rintro ⟨other, hother, haccepts, hrevision⟩
    have hsame := (accepts_decisionEntry hkind).mp haccepts
    cases eq_of_proposalId hunique hother htarget (hsame.2.symm.trans hid.symm)
    exact hrevision
  · intro hrevision
    exact ⟨target, htarget, (accepts_decisionEntry hkind).mpr ⟨houtcome, hid.symm⟩, hrevision⟩

theorem ProposalsKept.accept {event : ResearchEvent} (h : ProposalsKept proposals decisions)
    (hunique : (proposals.map (·.proposalId)).Nodup) (hkind : payload.targetKind = .proposal)
    (houtcome : payload.outcome = .accept) (htarget : target ∈ proposals)
    (hid : target.proposalId = payload.targetId)
    (hopen : target.revisionState = .proposed ∨ target.revisionState = .validated) :
    ProposalsKept (proposals.map (decideProposal payload target))
      (decisions ++ [decisionEntry event payload]) := by
  have hsplit : ∀ proposal ∈ proposals, proposal = target ∨
      proposal.proposalId ≠ payload.targetId := by
    intro proposal hproposal
    by_cases hsame : proposal.proposalId = payload.targetId
    · exact .inl (eq_of_proposalId hunique hproposal htarget (hsame.trans hid.symm))
    · exact .inr hsame
  constructor
  · intro decided hdecided
    obtain ⟨proposal, hproposal, rfl⟩ := List.mem_map.mp hdecided
    rcases hsplit proposal hproposal with rfl | hother
    · rw [decideProposal_target houtcome hid]
      decide
    · have hbefore := h.unvalidated proposal hproposal
      rw [decideProposal_other houtcome hother]
      split_ifs
      · decide
      · exact hbefore
  · intro decided hdecided
    obtain ⟨proposal, hproposal, rfl⟩ := List.mem_map.mp hdecided
    simp only [accepts_decideProposal, List.mem_append, List.mem_singleton, or_and_right,
      exists_or, exists_eq_left, accepts_decisionEntry hkind]
    rw [h.accepted proposal hproposal]
    rcases hsplit proposal hproposal with rfl | hother
    · rw [decideProposal_target houtcome hid]
      simp [houtcome, hid]
    · rw [decideProposal_other houtcome hother]
      have hapart : ¬ payload.targetId = proposal.proposalId := fun hsame => hother hsame.symm
      simp only [hapart, and_false, or_false]
      split_ifs with hlower
      · simp [hlower.1]
      · rfl
  · intro decided hdecided
    obtain ⟨proposal, hproposal, rfl⟩ := List.mem_map.mp hdecided
    rw [overtaken_decided, overtaken_accept h hunique hkind houtcome htarget hid hproposal]
    rcases hsplit proposal hproposal with rfl | hother
    · rw [decideProposal_target houtcome hid]
      rcases hopen with hopen | hopen <;> simp [hopen]
    · rw [decideProposal_other houtcome hother]
      split_ifs with hlower
      · simp [hlower]
      · constructor
        · exact .inl
        · rintro (hstate | ⟨hstate | hstate, hrevision⟩)
          · exact hstate
          · exact (hlower ⟨hstate, hrevision⟩).elim
          · exact hstate

/-- A decision keeps the states of the proposals in step with the decisions. -/
theorem ProposalsKept.decide {event : ResearchEvent} {decided : List ProposalLedgerEntry}
    (h : ProposalsKept proposals decisions) (hunique : (proposals.map (·.proposalId)).Nodup)
    (hdecided : Decided payload proposals decided) :
    ProposalsKept decided (decisions ++ [decisionEntry event payload]) := by
  cases hdecided with
  | unchanged hother =>
    apply h.pass
    rintro proposal ⟨hkind, houtcome, -⟩
    rcases hother with hother | hother
    · exact hother hkind
    · exact hother.1 houtcome
  | decided hkind houtcome htarget hid hopen =>
    rcases houtcome with houtcome | houtcome
    · exact h.accept hunique hkind houtcome htarget hid hopen
    · exact h.reject hunique hkind houtcome htarget hid hopen

/-- A decision moves the proposals along their states only. -/
theorem ProposalsKept.follows {decided : List ProposalLedgerEntry}
    (h : ProposalsKept proposals decisions) (hunique : (proposals.map (·.proposalId)).Nodup)
    (hdecided : Decided payload proposals decided) : List.Forall₂ Follows proposals decided := by
  cases hdecided with
  | unchanged _ => exact List.forall₂_same.mpr fun proposal _ => ⟨rfl, rfl, .inl rfl⟩
  | @decided target _ houtcome htarget hid hopen =>
    rw [List.forall₂_map_right_iff, List.forall₂_same]
    intro proposal hproposal
    refine ⟨decideProposal_proposalId, decideProposal_baseRevision, ?_⟩
    by_cases hsame : proposal.proposalId = payload.targetId
    · cases eq_of_proposalId hunique hproposal htarget (hsame.trans hid.symm)
      have hproposed : target.revisionState = .proposed :=
        hopen.resolve_right (h.unvalidated target htarget)
      rw [hproposed]
      rcases houtcome with houtcome | houtcome
      · rw [decideProposal_target houtcome hid]
        exact .inr .accept
      · refine .inr ?_
        simp only [decideProposal, hid, if_true, houtcome]
        exact .reject
    · by_cases hlower : payload.outcome = .accept ∧ proposal.revisionState = .accepted ∧
          proposal.baseRevision.val < target.baseRevision.val
      · refine .inr ?_
        rw [decideProposal, if_neg hsame, if_pos hlower, hlower.2.1]
        exact .supersede
      · rw [decideProposal, if_neg hsame, if_neg hlower]
        exact .inl rfl

end

end ResearchOs.Research
