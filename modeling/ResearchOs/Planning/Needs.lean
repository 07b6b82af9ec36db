import ResearchOs.Planning.Staging

/-! What a workflow needs, and that planning records it. -/
namespace ResearchOs.Planning

open SortBy Walk
open Spec (Identifier LoopBlock WorkflowEdge WorkflowGraph WorkflowNode)

/-! Paths are told apart by their pointers. -/

variable {context : PlannerContext} {planBody : PlanGraph} {base path : NodePath} {g : WorkflowGraph}
  {resolved : Resolved} {id : Identifier} {state after : PlannerState} {node : PlannedNode}
  {planned : PlannedGraph} {room : ℕ}
  {nodes : List WorkflowNode}

theorem mem_identifier {c : Char} (h : c ∈ id.val.toList) : isIdentifierTail c = true := by
  have hid := id.property
  unfold isEventIdentifier at hid
  split at hid
  · rename_i hnil
    rw [hnil] at h
    exact absurd h List.not_mem_nil
  · rename_i head tail hcons
    simp only [Bool.and_eq_true, List.all_eq_true] at hid
    rw [hcons] at h
    obtain rfl | h := List.mem_cons.mp h
    · have hhead : c.isAlphanum = true := hid.1.1
      simp [isIdentifierTail, hhead]
    · exact hid.1.2 c h

theorem escapePart_identifier (id : Identifier) : escapePart id.val = id.val.toList := by
  have hplain : ∀ c ∈ id.val.toList, c ≠ '~' ∧ c ≠ '/' := by
    intro c hc
    have htail := mem_identifier hc
    constructor
    · rintro rfl
      exact absurd htail (by decide)
    · rintro rfl
      exact absurd htail (by decide)
  unfold escapePart
  generalize id.val.toList = chars at hplain ⊢
  induction chars with
  | nil => rfl
  | cons c cs ih =>
    obtain ⟨htilde, hslash⟩ := hplain c List.mem_cons_self
    rw [List.flatMap_cons, if_neg htilde, if_neg hslash,
      ih fun d hd => hplain d (List.mem_cons_of_mem c hd)]
    rfl

/-- The characters of the pointer of a path. -/
def pointerChars (path : NodePath) : List Char := path.flatMap fun id => '/' :: idKey id

theorem nodePointer_toList (path : NodePath) : (nodePointer path).toList = pointerChars path := by
  rw [nodePointer, pointer, String.toList_ofList, List.flatMap_map]
  exact congrArg (fun f => path.flatMap f) (funext fun id => by rw [escapePart_identifier]; rfl)

/-- A part of a pointer ends where the next slash is. -/
theorem takeWhile_part (id : Identifier) (path : NodePath) :
    (idKey id ++ pointerChars path).takeWhile (· != '/') = idKey id := by
  have hid : ∀ c ∈ idKey id, (c != '/') = true := by
    intro c hc
    have htail := mem_identifier hc
    simp only [bne_iff_ne, ne_eq]
    rintro rfl
    exact absurd htail (by decide)
  rw [List.takeWhile_append_of_pos hid]
  cases path with
  | nil => simp [pointerChars]
  | cons next path => simp [pointerChars]

theorem pointerChars_injective : Function.Injective pointerChars := by
  intro path other h
  induction path generalizing other with
  | nil =>
    cases other with
    | nil => rfl
    | cons id other => cases h
  | cons id path ih =>
    cases other with
    | nil => cases h
    | cons id' other =>
      have htail : idKey id ++ pointerChars path = idKey id' ++ pointerChars other := by
        simpa [pointerChars] using h
      have hkey : idKey id = idKey id' := by
        rw [← takeWhile_part id path, htail, takeWhile_part]
      obtain rfl := idKey_injective hkey
      rw [ih (List.append_cancel_left htail)]

theorem nodePointer_injective : Function.Injective nodePointer := by
  intro path other h
  refine pointerChars_injective ?_
  rw [← nodePointer_toList, h, nodePointer_toList]

/-! What a workflow needs. -/

/-- What a node of a workflow needs: an approval, an approval of its cost, or a resource. -/
inductive Need where
  | approval (path : NodePath)
  | paidLoop (path : NodePath)
  | resource (id : Identifier)

/-- The requirement that planning the node records. -/
def Need.requirement? : Need → Option PolicyRequirement
  | .approval path => some (approvalRequirement path)
  | .paidLoop path => some (paidLoopRequirement path)
  | .resource _ => none

def Need.resource? : Need → Option Identifier
  | .resource id => some id
  | _ => none

mutual

/-- What a node needs below a path; `policy` says whether paid actions require approval. -/
def nodeNeeds (policy : Bool) (base : NodePath) : WorkflowNode → List Need
  | .task task => task.resourceRefs.map .resource
  | .approval approval => [.approval (base ++ [approval.id])]
  | .loop loop nodes _ =>
    (if loop.mayIncurCost = true ∧ policy = true then [.paidLoop (base ++ [loop.id])] else []) ++
      graphNeeds policy (base ++ [loop.id, bodyPart]) nodes

/-- What the nodes need, and the nodes in the bodies of their loops. -/
def graphNeeds (policy : Bool) (base : NodePath) : List WorkflowNode → List Need
  | [] => []
  | node :: nodes => nodeNeeds policy base node ++ graphNeeds policy base nodes

end

theorem graphNeeds_eq_flatMap (policy : Bool) (base : NodePath) (nodes : List WorkflowNode) :
    graphNeeds policy base nodes = nodes.flatMap (nodeNeeds policy base) := by
  induction nodes with
  | nil => rfl
  | cons node nodes ih => rw [graphNeeds, ih, List.flatMap_cons]

/-! What planning records. -/

/-- The state with the requirements and the resources of some needs. -/
structure Records (state : PlannerState) (needs : List Need) (after : PlannerState) : Prop where
  requirements : after.requirements =
    (needs.filterMap Need.requirement?).foldl setRequirement state.requirements
  resources : after.usedResourceIds = state.usedResourceIds ++ needs.filterMap Need.resource?

theorem Records.refl (state : PlannerState) : Records state [] state := ⟨rfl, by simp⟩

theorem Records.append {middle : PlannerState} {needs more : List Need}
    (h : Records state needs middle) (hmore : Records middle more after) :
    Records state (needs ++ more) after := by
  constructor
  · rw [hmore.requirements, h.requirements, List.filterMap_append, List.foldl_append]
  · rw [hmore.resources, h.resources, List.filterMap_append, List.append_assoc]

theorem filterMap_resources (ids : List Identifier) :
    (ids.map Need.resource).filterMap Need.requirement? = [] ∧
      (ids.map Need.resource).filterMap Need.resource? = ids := by
  rw [List.filterMap_map, List.filterMap_map]
  exact ⟨List.filterMap_eq_nil_iff.mpr fun _ _ => rfl, List.filterMap_some⟩

/-- The needs of the node of an id. -/
def needsOf (policy : Bool) (base : NodePath) (g : WorkflowGraph) (id : Identifier) : List Need :=
  ((findBy WorkflowNode.id g.nodes id).map (nodeNeeds policy base)).getD []

/-- What is recorded is what is needed, in some order. -/
def RecordsPerm (state : PlannerState) (needs : List Need) (after : PlannerState) : Prop :=
  ∃ recorded : List Need, recorded.Perm needs ∧ Records state recorded after

theorem planNode_recordsPerm
    (hbody : ∀ block nodes edges, .loop block nodes edges ∈ g.nodes → ∀ state planned after,
      planBody (base ++ [block.id, bodyPart]) ⟨nodes, edges⟩ state = .ok (planned, after) →
      RecordsPerm state (graphNeeds context.paidActionsRequireApproval
        (base ++ [block.id, bodyPart]) nodes) after)
    (h : planNode context planBody base g resolved id state = .ok (node, after)) :
    RecordsPerm state (needsOf context.paidActionsRequireApproval base g id) after := by
  obtain ⟨source, hsource, hplan⟩ := Fold.bind_eq_ok.mp h
  obtain ⟨hmem, hid⟩ := nodeById_ok hsource
  rw [needsOf, required_ok.mp hsource, Option.map_some, Option.getD_some]
  cases source with
  | task task =>
    obtain ⟨_, -, -, -, rfl⟩ := planTask_ok hplan
    obtain ⟨hnone, hall⟩ := filterMap_resources task.resourceRefs
    exact ⟨_, .refl _, by rw [nodeNeeds, hnone]; rfl, by rw [nodeNeeds, hall]⟩
  | approval approval =>
    obtain ⟨_, -, -, -, rfl⟩ := planApproval_ok hplan
    exact ⟨_, .refl _, rfl, (List.append_nil _).symm⟩
  | loop loop body edges =>
    obtain ⟨_, _, -, -, -, hbodyPlan⟩ := planLoop_ok hplan
    obtain ⟨recorded, hperm, hrecords⟩ := hbody loop body edges hmem _ _ _ hbodyPlan
    refine ⟨_, hperm.append_left _, Records.append ?_ hrecords⟩
    unfold enterLoop
    split_ifs
    · exact ⟨rfl, (List.append_nil _).symm⟩
    · exact ⟨rfl, (List.append_nil _).symm⟩

theorem flatMap_needsOf {policy : Bool} (hids : g.ids.Nodup) :
    g.ids.flatMap (needsOf policy base g) = g.nodes.flatMap (nodeNeeds policy base) := by
  rw [WorkflowGraph.ids, List.flatMap_map]
  refine List.flatMap_congr fun node hnode => ?_
  rw [needsOf, (findBy_eq_some_iff hids).mpr ⟨hnode, rfl⟩]
  rfl

/-- The indices of the stages add nothing. -/
theorem flatMap_zipIdx {f : Identifier → List Need} (ids : List (List Identifier)) :
    (ids.zipIdx.flatMap fun indexed => indexed.1.flatMap f) = ids.flatten.flatMap f := by
  have hfst : ids.zipIdx.map Prod.fst = ids := List.zipIdx_map_fst 0 ids
  calc (ids.zipIdx.flatMap fun indexed => indexed.1.flatMap f)
      = (ids.zipIdx.map Prod.fst).flatMap fun stage => stage.flatMap f := by
        rw [List.flatMap_map]
    _ = ids.flatten.flatMap f := by
        rw [hfst, List.flatten_eq_flatMap, List.flatMap_assoc]
        rfl

theorem planGraph_recordsPerm (hg : g.validate = .ok ())
    (h : planGraph context room base g state = .ok (planned, after)) :
    RecordsPerm state (graphNeeds context.paidActionsRequireApproval base g.nodes) after := by
  induction room generalizing base g state planned after with
  | zero => cases h
  | succ room ih =>
    obtain ⟨resolved, edges, final, -, -, -, -, -, -, hwalk, rfl⟩ := planGraph_ok h
    have haccepted := accepted_of_validate hg
    have hbody : ∀ block nodes edges, .loop block nodes edges ∈ g.nodes → ∀ state planned after,
        planGraph context room (base ++ [block.id, bodyPart]) ⟨nodes, edges⟩ state =
          .ok (planned, after) →
        RecordsPerm state (graphNeeds context.paidActionsRequireApproval
          (base ++ [block.id, bodyPart]) nodes) after :=
      fun block nodes edges hloop _ _ _ hplan => ih (validate_body hg hloop) hplan
    have hstage : ∀ indexed ∈ (stages g).zipIdx, ∀ u stage v,
        planStage context (planGraph context room) base g resolved indexed u = .ok (stage, v) →
        ∃ needs : List Need, needs.Perm
          (indexed.1.flatMap (needsOf context.paidActionsRequireApproval base g)) ∧
          Records u needs v := by
      intro indexed _ u stage v hplan
      obtain ⟨⟨plannedNodes, w⟩, hnodes, hplan⟩ := Fold.bind_eq_ok.mp hplan
      obtain ⟨_, -, hplan⟩ := Fold.bind_eq_ok.mp hplan
      cases hplan
      have hnode : ∀ id ∈ indexed.1, ∀ u node v,
          planNode context (planGraph context room) base g resolved id u = .ok (node, v) →
          RecordsPerm u (needsOf context.paidActionsRequireApproval base g id) v :=
        fun id _ u node v hnode => planNode_recordsPerm hbody hnode
      obtain ⟨needs, hneeds, hrecords⟩ := adds_of_walk Records.refl Records.append hnode hnodes
      exact ⟨needs.flatten, flatten_perm_of_forall₂ hneeds, hrecords⟩
    obtain ⟨added, hadded, hrecords⟩ := adds_of_walk Records.refl Records.append hstage hwalk
    refine ⟨added.flatten, ?_, hrecords.requirements, hrecords.resources⟩
    refine (flatten_perm_of_forall₂ hadded).trans ?_
    rw [flatMap_zipIdx, graphNeeds_eq_flatMap, ← flatMap_needsOf haccepted.ids_nodup]
    exact (stages_perm haccepted).flatMap_right _

/-! No two needs of approval are at one path. -/

variable {policy : Bool}

def Need.path? : Need → Option NodePath
  | .approval path => some path
  | .paidLoop path => some path
  | .resource _ => none

def needPaths (needs : List Need) : List NodePath := needs.filterMap Need.path?

theorem needPaths_append (needs more : List Need) :
    needPaths (needs ++ more) = needPaths needs ++ needPaths more :=
  List.filterMap_append

theorem needPaths_resources (ids : List Identifier) : needPaths (ids.map Need.resource) = [] := by
  rw [needPaths, List.filterMap_map]
  exact List.filterMap_eq_nil_iff.mpr fun _ _ => rfl

theorem mem_needPaths_loop {loop : LoopBlock} {body : List WorkflowNode} {edges : List WorkflowEdge}
    (h : path ∈ needPaths (nodeNeeds policy base (.loop loop body edges))) :
    path = base ++ [loop.id] ∨
      path ∈ needPaths (graphNeeds policy (base ++ [loop.id, bodyPart]) body) := by
  rw [nodeNeeds, needPaths_append, List.mem_append] at h
  refine h.imp_left fun hown => ?_
  split_ifs at hown
  · simpa [needPaths, Need.path?] using hown
  · exact absurd hown List.not_mem_nil

/-- Paths start at a node of the graph. -/
theorem exists_of_mem_needPaths (h : path ∈ needPaths (graphNeeds policy base nodes)) :
    ∃ node ∈ nodes, ∃ rest, path = base ++ node.id :: rest := by
  induction nodes using Spec.nodes_induction generalizing base with
  | nil => exact absurd h List.not_mem_nil
  | task task nodes ih =>
    rw [graphNeeds, needPaths_append, nodeNeeds, needPaths_resources] at h
    obtain ⟨node, hnode, rest, hpath⟩ := ih h
    exact ⟨node, List.mem_cons_of_mem _ hnode, rest, hpath⟩
  | approval approval nodes ih =>
    rw [graphNeeds, needPaths_append, List.mem_append] at h
    obtain h | h := h
    · exact ⟨_, List.mem_cons_self, [], List.mem_singleton.mp h⟩
    · obtain ⟨node, hnode, rest, hpath⟩ := ih h
      exact ⟨node, List.mem_cons_of_mem _ hnode, rest, hpath⟩
  | loop loop body edges nodes ihbody ih =>
    rw [graphNeeds, needPaths_append, List.mem_append] at h
    obtain h | h := h
    · refine ⟨_, List.mem_cons_self, ?_⟩
      obtain hown | hbelow := mem_needPaths_loop h
      · exact ⟨[], hown⟩
      · obtain ⟨node, -, rest, hpath⟩ := ihbody hbelow
        exact ⟨bodyPart :: node.id :: rest, by rw [hpath]; simp [WorkflowNode.id]⟩
    · obtain ⟨node, hnode, rest, hpath⟩ := ih h
      exact ⟨node, List.mem_cons_of_mem _ hnode, rest, hpath⟩

theorem exists_of_mem_nodePaths {node : WorkflowNode}
    (h : path ∈ needPaths (nodeNeeds policy base node)) : ∃ rest, path = base ++ node.id :: rest := by
  have hmem : path ∈ needPaths (graphNeeds policy base [node]) := by
    rw [graphNeeds, needPaths_append]
    exact List.mem_append_left _ h
  obtain ⟨other, hother, hrest⟩ := exists_of_mem_needPaths hmem
  obtain rfl := List.mem_singleton.mp hother
  exact hrest

/-- The paths of a node are not those of the others. -/
theorem needPaths_cons_nodup {node : WorkflowNode}
    (hids : ((node :: nodes).map WorkflowNode.id).Nodup)
    (hnode : (needPaths (nodeNeeds policy base node)).Nodup)
    (hnodes : (needPaths (graphNeeds policy base nodes)).Nodup) :
    (needPaths (graphNeeds policy base (node :: nodes))).Nodup := by
  rw [graphNeeds, needPaths_append, List.nodup_append]
  refine ⟨hnode, hnodes, fun path hpath other hother hsame => ?_⟩
  obtain ⟨rest, hrest⟩ := exists_of_mem_nodePaths hpath
  obtain ⟨node', hnode', rest', hrest'⟩ := exists_of_mem_needPaths hother
  have hid : node.id = node'.id := by
    have heq : base ++ node.id :: rest = base ++ node'.id :: rest' := by
      rw [← hrest, ← hrest', hsame]
    exact (List.cons.inj (List.append_cancel_left heq)).1
  rw [List.map_cons, List.nodup_cons] at hids
  exact hids.1 (hid ▸ List.mem_map_of_mem hnode')

theorem needPaths_nodup (hvalid : Spec.validateNodes nodes = .ok ())
    (hids : (nodes.map WorkflowNode.id).Nodup) :
    (needPaths (graphNeeds policy base nodes)).Nodup := by
  induction nodes using Spec.nodes_induction generalizing base with
  | nil => exact List.nodup_nil
  | task task nodes ih =>
    obtain ⟨_, -, hrest⟩ := Fold.bind_eq_ok.mp hvalid
    refine needPaths_cons_nodup hids ?_ (ih hrest (List.nodup_cons.mp hids).2)
    rw [nodeNeeds, needPaths_resources]
    exact List.nodup_nil
  | approval approval nodes ih =>
    obtain ⟨_, -, hrest⟩ := Fold.bind_eq_ok.mp hvalid
    exact needPaths_cons_nodup hids (List.nodup_singleton _) (ih hrest (List.nodup_cons.mp hids).2)
  | loop loop body edges nodes ihbody ih =>
    obtain ⟨_, hloop, hrest⟩ := Fold.bind_eq_ok.mp hvalid
    simp only [WorkflowNode.validate, Spec.requireSpec_bind_ok] at hloop
    obtain ⟨-, hloop⟩ := hloop
    obtain ⟨_, hbody, hloop⟩ := Fold.bind_eq_ok.mp hloop
    obtain ⟨_, -, hloop⟩ := Fold.bind_eq_ok.mp hloop
    obtain ⟨_, hgraph, -⟩ := Fold.bind_eq_ok.mp hloop
    have hinner : (needPaths (graphNeeds policy (base ++ [loop.id, bodyPart]) body)).Nodup :=
      ihbody hbody (accepted_of_validateGraph hgraph).ids_nodup
    refine needPaths_cons_nodup hids ?_ (ih hrest (List.nodup_cons.mp hids).2)
    rw [nodeNeeds, needPaths_append]
    split_ifs
    · refine List.nodup_cons.mpr ⟨fun hmem => ?_, hinner⟩
      obtain ⟨node, -, rest, hpath⟩ := exists_of_mem_needPaths hmem
      simp at hpath
    · exact hinner

end ResearchOs.Planning
