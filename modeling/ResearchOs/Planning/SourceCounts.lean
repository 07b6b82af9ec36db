import ResearchOs.Data.Loop
import ResearchOs.Planning.DryRun
import ResearchOs.Core.Spec.Bounds

/-! `_source_counts`: what a blocked plan says of its source, up to the node limit. -/
namespace ResearchOs.Planning

open Spec (WorkflowNode WorkflowGraph Within nodes_induction)

structure SourceCounts where
  taskCount : Nat
  approvalCount : Nat
  loopCount : Nat
  truncated : Bool
  deriving DecidableEq, Repr

/-- The counters of the loop, and the lists of nodes that are left with a position in each. -/
structure CountState where
  taskCount : Nat := 0
  approvalCount : Nat := 0
  loopCount : Nat := 0
  total : Nat := 0
  stack : List (List WorkflowNode × Nat)

def CountState.counts (s : CountState) (truncated : Bool) : SourceCounts :=
  ⟨s.taskCount, s.approvalCount, s.loopCount, truncated⟩

/-- The counters behind one more node; the body of a loop comes before what is left. -/
def CountState.count (s : CountState) : WorkflowNode → CountState
  | .task _ => { s with total := s.total + 1, taskCount := s.taskCount + 1 }
  | .approval _ => { s with total := s.total + 1, approvalCount := s.approvalCount + 1 }
  | .loop _ body _ =>
    { s with total := s.total + 1, loopCount := s.loopCount + 1, stack := (body, 0) :: s.stack }

/-- One turn of the loop over the stack. -/
def countPass (maxNodes : Int) (s : CountState) : CountState ⊕ SourceCounts :=
  match s.stack with
  | [] => .inr (s.counts false)
  | (nodes, index) :: stack =>
    match nodes[index]? with
    | none => .inl { s with stack }
    | some node =>
      if maxNodes ≤ s.total then .inr (s.counts true)
      else .inl ({ s with stack := (nodes, index + 1) :: stack }.count node)

/-- `_source_counts`, turn by turn; every node takes at most two turns. -/
def countSources (graph : WorkflowGraph) (maxNodes : Int) : Option SourceCounts :=
  Loop.run (countPass maxNodes) (2 * (preorder graph.nodes).length + 2)
    { stack := [(graph.nodes, 0)] }

def isTask : WorkflowNode → Bool
  | .task _ => true
  | _ => false

def isApproval : WorkflowNode → Bool
  | .approval _ => true
  | _ => false

def isLoop : WorkflowNode → Bool
  | .loop _ _ _ => true
  | _ => false

/-- The counts of some nodes. -/
def SourceCounts.ofNodes (counted : List WorkflowNode) (truncated : Bool) : SourceCounts :=
  ⟨counted.countP isTask, counted.countP isApproval, counted.countP isLoop, truncated⟩

variable {node : WorkflowNode} {nodes : List WorkflowNode} {maxNodes : Int} {s next : CountState}
  {index : Nat} {stack : List (List WorkflowNode × Nat)} {counts : SourceCounts}

/-- The nodes at every depth are those of the graph and of the bodies in it. -/
theorem mem_preorder : node ∈ preorder nodes ↔ Within node nodes := by
  induction nodes using nodes_induction with
  | nil =>
    refine ⟨fun h => absurd h List.not_mem_nil, fun h => ?_⟩
    cases h with
    | here h => cases h
    | body hloop h => cases hloop
  | task block nodes ih =>
    rw [preorder, nodePreorder, List.singleton_append, List.mem_cons, ih]
    constructor
    · rintro (rfl | h)
      · exact .here List.mem_cons_self
      · exact h.cons
    · intro h
      rcases h.of_cons with hhead | ⟨_, _, _, hhead, -⟩ | h
      · exact .inl hhead
      · cases hhead
      · exact .inr h
  | approval block nodes ih =>
    rw [preorder, nodePreorder, List.singleton_append, List.mem_cons, ih]
    constructor
    · rintro (rfl | h)
      · exact .here List.mem_cons_self
      · exact h.cons
    · intro h
      rcases h.of_cons with hhead | ⟨_, _, _, hhead, -⟩ | h
      · exact .inl hhead
      · cases hhead
      · exact .inr h
  | loop block body edges nodes ihbody ihnodes =>
    rw [preorder, nodePreorder, List.cons_append, List.mem_cons, List.mem_append, ihbody, ihnodes]
    constructor
    · rintro (rfl | h | h)
      · exact .here List.mem_cons_self
      · exact .body List.mem_cons_self h
      · exact h.cons
    · intro h
      rcases h.of_cons with hhead | ⟨_, _, _, hhead, h⟩ | h
      · exact .inl hhead
      · cases hhead
        exact .inr (.inl h)
      · exact .inr (.inr h)

/-- What is left on the stack. -/
def pending (stack : List (List WorkflowNode × Nat)) : List WorkflowNode :=
  stack.flatMap fun entry => preorder (entry.1.drop entry.2)

@[simp] theorem pending_nil : pending [] = [] := rfl

@[simp] theorem pending_cons : pending ((nodes, index) :: stack) =
    preorder (nodes.drop index) ++ pending stack := rfl

theorem preorder_drop (h : nodes[index]? = some node) :
    preorder (nodes.drop index) = nodePreorder node ++ preorder (nodes.drop (index + 1)) := by
  obtain ⟨hlt, rfl⟩ := List.getElem?_eq_some_iff.mp h
  rw [List.drop_eq_getElem_cons hlt, preorder]

/-- What was counted and what is left make the graph, and the limit is not passed. -/
structure Counting (nodes : List WorkflowNode) (maxNodes : Int) (s : CountState) : Prop where
  counted : ∃ counted, preorder nodes = counted ++ pending s.stack ∧ s.total = counted.length ∧
    ∀ truncated, s.counts truncated = .ofNodes counted truncated
  bounded : s.total = 0 ∨ s.total ≤ maxNodes

theorem counting_start : Counting nodes maxNodes { stack := [(nodes, 0)] } where
  counted := ⟨[], by simp, rfl, fun _ => rfl⟩
  bounded := .inl rfl

/-- The turns that are left. -/
def turns (s : CountState) : Nat := s.stack.length + 2 * (pending s.stack).length

/-- A turn that goes on drops a list that is used up, or counts a node below the limit. -/
theorem countPass_eq_inl (h : countPass maxNodes s = .inl next) :
    ∃ nodes index stack, s.stack = (nodes, index) :: stack ∧
      (nodes[index]? = none ∧ next = { s with stack } ∨
        ∃ node, nodes[index]? = some node ∧ ¬ maxNodes ≤ s.total ∧
          next = { s with stack := (nodes, index + 1) :: stack }.count node) := by
  unfold countPass at h
  split at h
  · cases h
  · rename_i nodes index stack hstack
    refine ⟨nodes, index, stack, hstack, ?_⟩
    split at h
    · rename_i hend
      exact .inl ⟨hend, (Sum.inl.inj h).symm⟩
    · rename_i node hnode
      split_ifs at h with hlimit
      exact .inr ⟨node, hnode, hlimit, (Sum.inl.inj h).symm⟩

theorem pending_ended (h : nodes[index]? = none) :
    pending ((nodes, index) :: stack) = pending stack := by
  rw [pending_cons, List.drop_eq_nil_of_le (List.getElem?_eq_none_iff.mp h), preorder,
    List.nil_append]

/-- A node that is counted leaves its body on the stack. -/
theorem cons_pending_count (s : CountState) (node : WorkflowNode) :
    node :: pending (s.count node).stack = nodePreorder node ++ pending s.stack := by
  cases node <;> rfl

theorem pending_counted (hnode : nodes[index]? = some node) :
    pending ((nodes, index) :: stack) =
      node :: pending ({ s with stack := (nodes, index + 1) :: stack }.count node).stack := by
  rw [pending_cons, preorder_drop hnode, List.append_assoc, cons_pending_count]
  rfl

theorem length_stack_count (s : CountState) (node : WorkflowNode) :
    (s.count node).stack.length ≤ s.stack.length + 1 := by
  cases node with
  | task block => exact Nat.le_succ _
  | approval block => exact Nat.le_succ _
  | loop block body edges => exact Nat.le_refl _

theorem total_count : (s.count node).total = s.total + 1 := by
  cases node <;> rfl

theorem counts_count {counted : List WorkflowNode} {truncated : Bool}
    (h : s.counts truncated = .ofNodes counted truncated) :
    (s.count node).counts truncated = .ofNodes (counted ++ [node]) truncated := by
  simp only [CountState.counts, SourceCounts.ofNodes, SourceCounts.mk.injEq, and_true] at h
  obtain ⟨htasks, happrovals, hloops⟩ := h
  cases node <;>
    simp [CountState.count, CountState.counts, SourceCounts.ofNodes, isTask, isApproval, isLoop,
      htasks, happrovals, hloops]

theorem Counting.ended (h : Counting nodes maxNodes s) {found : List WorkflowNode}
    (hstack : s.stack = (found, index) :: stack) (hend : found[index]? = none) :
    Counting nodes maxNodes { s with stack } := by
  have hpending : pending s.stack = pending stack := by rw [hstack, pending_ended hend]
  exact ⟨hpending ▸ h.counted, h.bounded⟩

theorem Counting.count (h : Counting nodes maxNodes s) {found : List WorkflowNode}
    (hstack : s.stack = (found, index) :: stack) (hnode : found[index]? = some node)
    (hlimit : ¬ maxNodes ≤ s.total) :
    Counting nodes maxNodes ({ s with stack := (found, index + 1) :: stack }.count node) := by
  obtain ⟨⟨counted, hsplit, htotal, hcounts⟩, -⟩ := h
  refine ⟨⟨counted ++ [node], ?_, ?_, fun truncated => counts_count (hcounts truncated)⟩, .inr ?_⟩
  · rw [hsplit, hstack, pending_counted hnode, List.append_assoc, List.singleton_append]
  · rw [total_count, List.length_append, List.length_singleton, htotal]
  · rw [total_count]
    push_cast
    omega

theorem descends : Loop.Descends (countPass maxNodes) (Counting nodes maxNodes) turns where
  keeps := by
    intro s next hs hpass
    obtain ⟨found, index, stack, hstack, ⟨hend, rfl⟩ | ⟨node, hnode, hlimit, rfl⟩⟩ :=
      countPass_eq_inl hpass
    · exact hs.ended hstack hend
    · exact hs.count hstack hnode hlimit
  lowers := by
    intro s next hs hpass
    obtain ⟨found, index, stack, hstack, ⟨hend, rfl⟩ | ⟨node, hnode, hlimit, rfl⟩⟩ :=
      countPass_eq_inl hpass
    · have hpending : (pending ((found, index) :: stack)).length = (pending stack).length :=
        congrArg List.length (pending_ended hend)
      simp only [turns, hstack, List.length_cons]
      omega
    · set later : CountState := { s with stack := (found, index + 1) :: stack } with hlater
      have hlists := length_stack_count later node
      have hpending : (pending s.stack).length = (pending (later.count node).stack).length + 1 := by
        rw [hstack, pending_counted hnode, List.length_cons]
      have hlength : s.stack.length = later.stack.length := by rw [hstack]; rfl
      rw [turns, turns]
      omega

/-- The loop is left with the counts of as many nodes as the limit allows. -/
theorem Counting.left (h : Counting nodes maxNodes s) (hpass : countPass maxNodes s = .inr counts)
    (hnodes : nodes ≠ [] ∨ 0 ≤ maxNodes) : counts =
      .ofNodes ((preorder nodes).take maxNodes.toNat) (decide (maxNodes < (preorder nodes).length)) := by
  obtain ⟨⟨counted, hsplit, htotal, hcounts⟩, hbounded⟩ := h
  unfold countPass at hpass
  split at hpass
  · -- The stack is empty, and everything has been counted.
    rename_i hstack
    cases hpass
    rw [hstack, pending_nil, List.append_nil] at hsplit
    have hsome : 0 < (preorder nodes).length ∨ 0 ≤ maxNodes := by
      refine hnodes.imp_left fun hne => ?_
      obtain ⟨node, rest, rfl⟩ := List.exists_cons_of_ne_nil hne
      exact List.length_pos_of_mem (mem_preorder.mpr (.here List.mem_cons_self))
    rw [hsplit] at hsome ⊢
    rw [hcounts, List.take_of_length_le (by omega), decide_eq_false (by omega)]
  · rename_i found index stack hstack
    split at hpass
    · cases hpass
    · -- At least the node at this position is left over.
      rename_i node hnode
      split_ifs at hpass with hlimit
      cases hpass
      rw [hstack, pending_counted (s := s) hnode] at hsplit
      rw [hcounts, hsplit, List.take_left' (by omega), decide_eq_true]
      rw [List.length_append, List.length_cons]
      push_cast
      omega

/-- The loop comes to an end, and counts the nodes in preorder up to the limit. -/
theorem countSources_eq (graph : WorkflowGraph) (hnodes : graph.nodes ≠ [] ∨ 0 ≤ maxNodes) :
    countSources graph maxNodes = some (.ofNodes ((preorder graph.nodes).take maxNodes.toNat)
      (decide (maxNodes < (preorder graph.nodes).length))) := by
  have hrank : turns { stack := [(graph.nodes, 0)] } < 2 * (preorder graph.nodes).length + 2 := by
    simp only [turns, pending_cons, pending_nil, List.drop_zero, List.append_nil, List.length_cons,
      List.length_nil]
    omega
  obtain ⟨last, counts, hlast, hleft, hrun⟩ := descends.ends counting_start hrank
  exact hrun.trans (congrArg some (hlast.left hleft hnodes))

theorem sum_sourceCount (counted : List WorkflowNode) :
    (counted.map sourceCount).foldr (· + ·) 0 =
      (counted.countP isTask, counted.countP isApproval, counted.countP isLoop, 0) := by
  induction counted with
  | nil => rfl
  | cons node counted ih =>
    rw [List.map_cons, List.foldr_cons, ih]
    cases node <;> simp [sourceCount, List.countP_cons, isTask, isApproval, isLoop, Nat.add_comm]

/-- What a blocked report says of its source is what the loop counts. -/
theorem sourceCounts_eq (graph : WorkflowGraph) (maxNodes : ℕ) :
    ∃ counts, countSources graph maxNodes = some counts ∧ sourceCounts graph.nodes maxNodes =
      ((counts.taskCount, counts.approvalCount, counts.loopCount, 0), counts.truncated) := by
  refine ⟨_, countSources_eq graph (.inr (Int.natCast_nonneg maxNodes)), ?_⟩
  rw [sourceCounts, sum_sourceCount]
  simp [SourceCounts.ofNodes]

/-- The counts are exact unless the graph has more nodes than the limit, at all depths together. -/
theorem sourceCounts_exact (graph : WorkflowGraph) (maxNodes : Int)
    (hnodes : graph.nodes ≠ [] ∨ 0 ≤ maxNodes) :
    ∃ counts, countSources graph maxNodes = some counts ∧
      (counts.truncated = true ↔ maxNodes < (preorder graph.nodes).length) ∧
      (counts.truncated = false → counts.taskCount = (preorder graph.nodes).countP isTask ∧
        counts.approvalCount = (preorder graph.nodes).countP isApproval ∧
        counts.loopCount = (preorder graph.nodes).countP isLoop) := by
  refine ⟨_, countSources_eq graph hnodes, decide_eq_true_iff, fun htruncated => ?_⟩
  have hall : (preorder graph.nodes).take maxNodes.toNat = preorder graph.nodes := by
    have hlimit := of_decide_eq_false htruncated
    exact List.take_of_length_le (by omega)
  rw [hall]
  exact ⟨rfl, rfl, rfl⟩

/-- A task in two loops fills a limit of three, and passes one of two. -/
theorem sourceCounts_exact_nested :
    (∃ counts, countSources ⟨Spec.nestedNodes, []⟩ 3 = some counts ∧ counts.truncated = false) ∧
      ∃ counts, countSources ⟨Spec.nestedNodes, []⟩ 2 = some counts ∧ counts.truncated = true := by
  have hlength : (preorder Spec.nestedNodes).length = 3 := rfl
  obtain ⟨full, hfull, hiff, -⟩ := sourceCounts_exact ⟨Spec.nestedNodes, []⟩ 3 (.inr (by decide))
  obtain ⟨cut, hcut, hiff', -⟩ := sourceCounts_exact ⟨Spec.nestedNodes, []⟩ 2 (.inr (by decide))
  refine ⟨⟨full, hfull, ?_⟩, cut, hcut, hiff'.mpr (by rw [hlength]; decide)⟩
  rw [hlength] at hiff
  exact Bool.eq_false_iff.mpr fun htruncated => absurd (hiff.mp htruncated) (by decide)

end ResearchOs.Planning
