import Mathlib.Data.List.ReduceOption
import ResearchOs.Dashboard.AgentEdit

/-! The checks of a scoped edit confine it to the scope and what grows below it. -/
namespace ResearchOs.Dashboard

open MapState

variable {N : Type} [DecidableEq N] {before after : MapState N} {scope allowed : List String}
  {node found : Component N} {chain : List (Component N)} {id : String} {n : Nat}

/-- The scope, and the new components at any depth below it. -/
inductive Reached (before after : MapState N) (scope : List String) : String → Prop where
  | scope {id : String} : id ∈ scope → Reached before after scope id
  | grown {node : Component N} {parentId : String} : node ∈ after.components →
      before.node node.id = none → node.parentId = some parentId →
      Reached before after scope parentId → Reached before after scope node.id

/-- A component that is reached in so many steps below the scope. -/
inductive ReachedIn (before after : MapState N) (scope : List String) : Nat → String → Prop where
  | scope {id : String} : id ∈ scope → ReachedIn before after scope 0 id
  | grown {node : Component N} {parentId : String} {n : Nat} : node ∈ after.components →
      before.node node.id = none → node.parentId = some parentId →
      ReachedIn before after scope n parentId → ReachedIn before after scope (n + 1) node.id

omit [DecidableEq N] in
theorem Reached.steps (h : Reached before after scope id) :
    ∃ n, ReachedIn before after scope n id := by
  induction h with
  | scope hid => exact ⟨0, .scope hid⟩
  | grown hnode hnew hparent _ ih =>
    obtain ⟨n, hn⟩ := ih
    exact ⟨n + 1, .grown hnode hnew hparent hn⟩

/-! The rounds. -/

omit [DecidableEq N] in
theorem mem_allowNew : id ∈ allowNew before allowed node ↔ id ∈ allowed ∨
    id = node.id ∧ before.node node.id = none ∧ ∃ parentId ∈ node.parentId, parentId ∈ allowed := by
  unfold allowNew
  split_ifs with h
  · rw [List.mem_cons, or_comm, and_iff_left h]
  · exact ⟨.inl, fun hmem => hmem.resolve_right fun hnew => h hnew.2⟩

omit [DecidableEq N] in
theorem subset_foldl {components : List (Component N)} (h : id ∈ allowed) :
    id ∈ components.foldl (allowNew before) allowed := by
  induction components generalizing allowed with
  | nil => exact h
  | cons node components ih => exact ih (mem_allowNew.mpr (.inl h))

omit [DecidableEq N] in
theorem subset_allowRound (h : id ∈ allowed) : id ∈ allowRound before after allowed := subset_foldl h

omit [DecidableEq N] in
/-- A round allows every new component below the set. -/
theorem mem_allowRound (hnode : node ∈ after.components) (hnew : before.node node.id = none)
    {parentId : String} (hparent : node.parentId = some parentId) (hallowed : parentId ∈ allowed) :
    node.id ∈ allowRound before after allowed := by
  obtain ⟨earlier, later, hsplit⟩ := List.append_of_mem hnode
  rw [allowRound, hsplit, List.foldl_append, List.foldl_cons]
  refine subset_foldl (mem_allowNew.mpr (.inr ⟨rfl, hnew, parentId, hparent, ?_⟩))
  exact subset_foldl hallowed

omit [DecidableEq N] in
theorem reached_of_foldl {components : List (Component N)}
    (hcomponents : ∀ node ∈ components, node ∈ after.components)
    (hallowed : ∀ id ∈ allowed, Reached before after scope id) :
    ∀ id ∈ components.foldl (allowNew before) allowed, Reached before after scope id := by
  induction components generalizing allowed with
  | nil => exact hallowed
  | cons node components ih =>
    obtain ⟨hnode, hrest⟩ := List.forall_mem_cons.mp hcomponents
    refine ih hrest fun id hid => ?_
    rcases mem_allowNew.mp hid with hid | ⟨rfl, hnew, parentId, hparent, hmem⟩
    · exact hallowed id hid
    · exact .grown hnode hnew hparent (hallowed parentId hmem)

omit [DecidableEq N] in
/-- A round allows nothing that is not below the scope. -/
theorem reached_of_allowRounds :
    ∀ id ∈ (allowRound before after)^[n] scope, Reached before after scope id := by
  induction n with
  | zero => exact fun id hid => .scope hid
  | succ n ih =>
    rw [Function.iterate_succ_apply']
    exact reached_of_foldl (fun _ hnode => hnode) ih

omit [DecidableEq N] in
theorem allowed_of_reachedIn (h : ReachedIn before after scope n id) :
    id ∈ (allowRound before after)^[n] scope := by
  induction h with
  | scope hid => exact hid
  | grown hnode hnew hparent _ ih =>
    rw [Function.iterate_succ_apply']
    exact mem_allowRound hnode hnew hparent ih

omit [DecidableEq N] in
theorem allowRounds_mono {m : Nat} (hle : n ≤ m) (h : id ∈ (allowRound before after)^[n] scope) :
    id ∈ (allowRound before after)^[m] scope := by
  induction hle with
  | refl => exact h
  | step _ ih =>
    rw [Function.iterate_succ_apply']
    exact subset_allowRound ih

omit [DecidableEq N] in
/-- In a coherent map, what is reached in so many steps has at least so many ancestors. -/
theorem ReachedIn.depth (hafter : Coherent after) (h : ReachedIn before after scope n id)
    (hfound : after.node id = some found) (hchain : Chain after found.parentId chain) :
    n ≤ chain.length := by
  induction h generalizing found chain with
  | scope => exact Nat.zero_le _
  | @grown node parentId n hnode _ hparent _ ih =>
    obtain rfl : node = found := by
      rw [node_of_mem hafter.distinct hnode] at hfound
      exact Option.some.inj hfound
    rw [hparent] at hchain
    cases hchain with
    | step hparentNode hrest => exact Nat.succ_le_succ (ih hparentNode hrest)

omit [DecidableEq N] in
/-- The fixed rounds reach all there is to reach. -/
theorem mem_allowedIn (hafter : Coherent after) :
    id ∈ allowedIn before after scope ↔ Reached before after scope id := by
  refine ⟨reached_of_allowRounds id, fun h => ?_⟩
  obtain ⟨n, hn⟩ := h.steps
  have hrounds : n ≤ expansionRounds := by
    cases hn with
    | scope => exact Nat.zero_le _
    | @grown node parentId n hnode hnew hparent hbelow =>
      obtain ⟨chain, hchain, hlength⟩ := hafter.chains node hnode
      have hdeep : n + 1 ≤ chain.length :=
        (ReachedIn.grown hnode hnew hparent hbelow).depth hafter (node_of_mem hafter.distinct hnode)
          hchain
      exact Nat.le_trans hdeep hlength
  exact allowRounds_mono hrounds (allowed_of_reachedIn hn)

/-! The scope and its descendants. -/

/-- Every existing component below a member of the scope is in it. -/
def ClosedBelow (before : MapState N) (scope : List String) : Prop :=
  ∀ node ∈ before.components, ∀ chain, Chain before node.parentId chain →
    ∀ ancestor ∈ chain, ancestor.id ∈ scope → node.id ∈ scope

omit [DecidableEq N] in
theorem includesChildren_iff (hbefore : Coherent before) :
    includesChildren before scope ↔ ClosedBelow before scope := by
  constructor
  · intro h node hnode chain hchain
    have hclimb : ∀ {parent : Option String} {chain : List (Component N)},
        Chain before parent chain → (∃ ancestor ∈ chain, ancestor.id ∈ scope) →
          ∃ parentId ∈ parent, parentId ∈ scope := by
      intro parent chain hchain
      induction hchain with
      | root => exact fun ⟨ancestor, hmem, _⟩ => absurd hmem List.not_mem_nil
      | @step parentId found rest hfound _ ih =>
        rintro ⟨ancestor, hmem, hscope⟩
        obtain ⟨hmemFound, hid⟩ := mem_of_node hfound
        refine ⟨parentId, rfl, ?_⟩
        rcases List.mem_cons.mp hmem with rfl | hrest
        · exact hid ▸ hscope
        · exact hid ▸ h found hmemFound (ih ⟨ancestor, hrest, hscope⟩)
    exact fun ancestor hmem hscope => h node hnode (hclimb hchain ⟨ancestor, hmem, hscope⟩)
  · rintro h node hnode ⟨parentId, hparent, hscope⟩
    obtain ⟨chain, hchain, -⟩ := hbefore.chains node hnode
    have hparent : node.parentId = some parentId := hparent
    rw [hparent] at hchain
    cases hchain with
    | @step _ found rest hfound hrest =>
      have hid := (mem_of_node hfound).2
      refine h node hnode (found :: rest) ?_ found List.mem_cons_self (hid ▸ hscope)
      rw [hparent]
      exact .step hfound hrest

/-- A scoped edit that changes nothing outside the scope and what grows below it. -/
structure Confined (before after : MapState N) (scope : List String) : Prop where
  closed : ClosedBelow before scope
  components : ∀ id, ¬ Reached before after scope id → before.node id = after.node id
  relations : ∀ id, before.edge id ≠ after.edge id → ∀ edge : Relation,
    before.edge id = some edge ∨ after.edge id = some edge →
      Reached before after scope edge.source ∧ Reached before after scope edge.target
  appearance : before.appearance = after.appearance
  viewport : before.viewport = after.viewport

omit [DecidableEq N] in
theorem node_eq_none (h : id ∉ identities before after) :
    before.node id = none ∧ after.node id = none := by
  rw [identities, List.mem_append, not_or] at h
  refine ⟨?_, ?_⟩
  · rw [Option.eq_none_iff_forall_ne_some]
    intro node hnode
    obtain ⟨hmem, rfl⟩ := mem_of_node hnode
    exact h.1 (List.mem_map_of_mem hmem)
  · rw [Option.eq_none_iff_forall_ne_some]
    intro node hnode
    obtain ⟨hmem, rfl⟩ := mem_of_node hnode
    exact h.2 (List.mem_map_of_mem hmem)

omit [DecidableEq N] in
theorem edge_eq_none (h : id ∉ relationIdentities before after) :
    before.edge id = none ∧ after.edge id = none := by
  rw [relationIdentities, List.mem_append, not_or] at h
  refine ⟨?_, ?_⟩
  · rw [Option.eq_none_iff_forall_ne_some]
    intro edge hedge
    obtain ⟨hmem, rfl⟩ := mem_of_edge hedge
    exact h.1 (List.mem_map_of_mem hmem)
  · rw [Option.eq_none_iff_forall_ne_some]
    intro edge hedge
    obtain ⟨hmem, rfl⟩ := mem_of_edge hedge
    exact h.2 (List.mem_map_of_mem hmem)

omit [DecidableEq N] in
theorem sameOutside_iff (hafter : Coherent after) :
    sameOutside before after (allowedIn before after scope) ↔
      ∀ id, ¬ Reached before after scope id → before.node id = after.node id := by
  constructor
  · intro h id hid
    by_cases hmem : id ∈ identities before after
    · exact h id hmem fun hallowed => hid ((mem_allowedIn hafter).mp hallowed)
    · obtain ⟨hbefore, hafter⟩ := node_eq_none hmem
      rw [hbefore, hafter]
  · exact fun h id _ hallowed => h id fun hid => hallowed ((mem_allowedIn hafter).mpr hid)

omit [DecidableEq N] in
theorem relationsInside_iff (hafter : Coherent after) :
    relationsInside before after (allowedIn before after scope) ↔
      ∀ id, before.edge id ≠ after.edge id → ∀ edge : Relation,
        before.edge id = some edge ∨ after.edge id = some edge →
          Reached before after scope edge.source ∧ Reached before after scope edge.target := by
  have hmem : ∀ {id : String} {edge : Relation},
      edge ∈ [before.edge id, after.edge id].reduceOption ↔
        before.edge id = some edge ∨ after.edge id = some edge := by
    intro id edge
    rw [List.reduceOption_mem_iff]
    simp [eq_comm]
  constructor
  · intro h id hne edge hedge
    by_cases hid : id ∈ relationIdentities before after
    · obtain ⟨hsource, htarget⟩ := h id hid hne edge (hmem.mpr hedge)
      exact ⟨(mem_allowedIn hafter).mp hsource, (mem_allowedIn hafter).mp htarget⟩
    · obtain ⟨hbefore, hafter⟩ := edge_eq_none hid
      exact absurd (hbefore.trans hafter.symm) hne
  · intro h id _ hne edge hedge
    obtain ⟨hsource, htarget⟩ := h id hne edge (hmem.mp hedge)
    exact ⟨(mem_allowedIn hafter).mpr hsource, (mem_allowedIn hafter).mpr htarget⟩

theorem checkScope_eq_ok (hbefore : Coherent before) (hafter : Coherent after) :
    checkScope before after scope = .ok () ↔
      knownScope before scope ∧ Confined before after scope := by
  constructor
  · intro h
    obtain ⟨_, hknown, h⟩ := Fold.bind_eq_ok.mp h
    obtain ⟨_, hchildren, h⟩ := Fold.bind_eq_ok.mp h
    obtain ⟨_, hsame, h⟩ := Fold.bind_eq_ok.mp h
    obtain ⟨_, hrelations, hglobal⟩ := Fold.bind_eq_ok.mp h
    obtain ⟨happearance, hviewport⟩ := require_eq_ok.mp hglobal
    exact ⟨require_eq_ok.mp hknown, (includesChildren_iff hbefore).mp (require_eq_ok.mp hchildren),
      (sameOutside_iff hafter).mp (require_eq_ok.mp hsame),
      (relationsInside_iff hafter).mp (require_eq_ok.mp hrelations), happearance, hviewport⟩
  · rintro ⟨hknown, h⟩
    have hchildren := (includesChildren_iff hbefore).mpr h.closed
    have hsame := (sameOutside_iff hafter).mpr h.components
    have hrelations := (relationsInside_iff hafter).mpr h.relations
    simp only [checkScope, require, if_pos hknown, if_pos hchildren, if_pos hsame,
      if_pos hrelations, if_pos (And.intro h.appearance h.viewport), bind, Except.bind]

omit [DecidableEq N] in
/-- Nothing that was there before is reached from outside the scope. -/
theorem Reached.mem_scope (h : Reached before after scope id) (hexists : before.node id ≠ none) :
    id ∈ scope := by
  cases h with
  | scope hid => exact hid
  | grown _ hnew => exact absurd hnew hexists

omit [DecidableEq N] in
/-- Ancestors outside the scope stay the ancestors. -/
theorem Confined.chain_of_outside (h : Confined before after scope) {parent : Option String}
    (hchain : Chain before parent chain) (houtside : ∀ ancestor ∈ chain, ancestor.id ∉ scope) :
    Chain after parent chain := by
  induction hchain with
  | root => exact .root
  | @step parentId found rest hfound _ ih =>
    obtain ⟨hhead, hrest⟩ := List.forall_mem_cons.mp houtside
    have hunmoved : before.node parentId = after.node parentId := by
      refine h.components parentId fun hreached => hhead ?_
      rw [(mem_of_node hfound).2]
      exact hreached.mem_scope (hfound ▸ Option.some_ne_none found)
    exact .step (hunmoved ▸ hfound) (ih hrest)

omit [DecidableEq N] in
/-- What is outside stays as it is, below the same ancestors. -/
theorem Confined.unmoved (h : Confined before after scope) (hbefore : Coherent before)
    (hnode : node ∈ before.components) (houtside : ¬ Reached before after scope node.id) :
    after.node node.id = some node ∧
      ∀ chain, Chain before node.parentId chain → Chain after node.parentId chain := by
  refine ⟨?_, fun chain hchain => h.chain_of_outside hchain fun ancestor hancestor hscope => ?_⟩
  · rw [← h.components node.id houtside]
    exact node_of_mem hbefore.distinct hnode
  · exact houtside (.scope (h.closed node hnode chain hchain ancestor hancestor hscope))

/-- The checks of a scoped edit accept exactly the confined edits of a scope of existing components.
The rounds reach all that grows below it, and what is outside keeps its place. -/
theorem checkScope_confines [LinearOrder N] [Add N] [NatCast N] (before after : MapState N)
    (scope : List String) (hbefore : before.coherentMap = .ok ())
    (hafter : after.coherentMap = .ok ()) :
    (checkScope before after scope = .ok () ↔
      (∀ id ∈ scope, before.node id ≠ none) ∧ Confined before after scope) ∧
    (∀ id, id ∈ allowedIn before after scope ↔ Reached before after scope id) ∧
    (checkScope before after scope = .ok () → ∀ node ∈ before.components,
      ¬ Reached before after scope node.id → after.node node.id = some node ∧
        ∀ chain, Chain before node.parentId chain →
          Chain after node.parentId chain ∧ ∀ moved, after.node node.id = some moved →
            absolute moved chain = absolute node chain) := by
  have hbefore := coherent_of_coherentMap hbefore
  have hafter := coherent_of_coherentMap hafter
  refine ⟨checkScope_eq_ok hbefore hafter, fun id => mem_allowedIn hafter, ?_⟩
  intro h node hnode houtside
  obtain ⟨-, hconfined⟩ := (checkScope_eq_ok hbefore hafter).mp h
  obtain ⟨hsame, hchains⟩ := hconfined.unmoved hbefore hnode houtside
  refine ⟨hsame, fun chain hchain => ⟨hchains chain hchain, ?_⟩⟩
  intro moved hmoved
  rw [hsame] at hmoved
  cases hmoved
  rfl

theorem checkScope_confines_region :
    checkScope (trialMap [trialRegion]) (trialMap [trialRegion, trialNote]) ["region"] = .ok () ∧
      Reached (trialMap [trialRegion]) (trialMap [trialRegion, trialNote]) ["region"] "note" :=
  ⟨by decide +kernel, ((checkScope_confines (trialMap [trialRegion])
    (trialMap [trialRegion, trialNote]) ["region"] (by decide +kernel) (by decide +kernel)).2.1
      "note").mp (by decide +kernel)⟩

/-- A scope that names no component is refused, although nothing changes. -/
theorem unknown_scope_refused :
    (trialMap []).coherentMap = .ok () ∧ Confined (trialMap []) (trialMap []) ["ghost"] ∧
      checkScope (trialMap []) (trialMap []) ["ghost"] =
        .error (.value "unknown Agent scope") := by
  refine ⟨by decide +kernel, ⟨fun node hnode => ?_, fun _ _ => rfl, fun _ hne => ?_, rfl, rfl⟩,
    by decide +kernel⟩
  · exact absurd hnode List.not_mem_nil
  · exact absurd rfl hne

end ResearchOs.Dashboard
