import Mathlib.Data.Int.Order.Basic
import Mathlib.Data.List.Nodup
import Mathlib.Data.Nat.Cast.Defs
import Mathlib.Logic.Function.Iterate
import Mathlib.Order.Lattice
import ResearchOs.Data.Fold

/-! Semantic maps: components inside groups, relations between components, and when they cohere. -/
namespace ResearchOs.Dashboard

inductive ComponentType where
  | group
  | project
  | run
  | agent
  | research
  | evaluation
  | resource
  | provider
  | dataset
  | model
  | service
  | pool
  | availability
  | cost
  | access
  | recovery
  | note
  | custom
  deriving DecidableEq, Repr

inductive Renderer where
  | summary
  | metric
  | table
  | chart
  | timeline
  deriving DecidableEq, Repr

inductive RelationType where
  | dependency
  | evidence
  | shared
  | peer
  | association
  deriving DecidableEq, Repr

inductive Skin where
  | graphite
  | paper
  | custom
  deriving DecidableEq, Repr

inductive Density where
  | comfortable
  | compact
  deriving DecidableEq, Repr

inductive BindingSource where
  | workspace
  | runs
  | research
  | events
  | telemetry
  deriving DecidableEq, Repr

/-- The numbers of a map: finite floats, with the two zeros as one, and their rounded sum. -/
structure Position (N : Type) where
  x : N
  y : N
  width : N
  height : N
  deriving DecidableEq, Repr

structure Binding where
  source : BindingSource
  entityId : Option String
  sourceId : Option String
  deriving DecidableEq, Repr

structure Component (N : Type) where
  id : String
  type : ComponentType
  title : String
  parentId : Option String
  position : Position N
  pinned : Bool
  collapsed : Bool
  binding : Option Binding
  body : String
  renderer : Renderer
  deriving DecidableEq, Repr

structure Relation where
  id : String
  source : String
  target : String
  type : RelationType
  label : String
  deriving DecidableEq, Repr

structure Appearance (N : Type) where
  skin : Skin
  background : String
  accent : String
  density : Density
  textScale : N
  deriving DecidableEq, Repr

structure Viewport (N : Type) where
  x : N
  y : N
  zoom : N
  deriving DecidableEq, Repr

structure MapState (N : Type) where
  components : List (Component N)
  relations : List Relation
  appearance : Appearance N
  viewport : Viewport N
  deriving DecidableEq, Repr

/-- A `ValueError` with its message, or a `KeyError`. -/
inductive MapError where
  | value (message : String)
  | missingKey
  deriving DecidableEq, Repr

def require (condition : Prop) [Decidable condition] (message : String) : Except MapError Unit :=
  if condition then .ok () else .error (.value message)

namespace MapState

variable {N : Type}

/-- `{node.id: node for node in components}`: a later component takes the place of an earlier one. -/
def node (m : MapState N) (id : String) : Option (Component N) :=
  m.components.reverse.find? fun node => node.id = id

/-- `{edge.id: edge for edge in relations}` -/
def edge (m : MapState N) (id : String) : Option Relation :=
  m.relations.reverse.find? fun edge => edge.id = id

/-- The climb from a component to its ancestors; the fuel is nine less the number of components
visited. -/
def climb (m : MapState N) : Nat → List String → Option String → Except MapError Unit
  | _, _, none => .ok ()
  | 0, _, some _ => .error (.value "cyclic or excessive containment")
  | fuel + 1, visited, some parentId => do
    require (parentId ∉ visited) "cyclic or excessive containment"
    match m.node parentId with
    | none => .error (.value "missing parent")
    | some parent => climb m fuel (parentId :: visited) parent.parentId

def containmentDepth : Nat := 8

section

variable [LinearOrder N] [Add N] [NatCast N]

def fits (parent child : Position N) : Prop :=
  ((48 : Nat) : N) ≤ child.y ∧ child.x + child.width ≤ parent.width ∧
    child.y + child.height ≤ parent.height

instance (parent child : Position N) : Decidable (fits parent child) :=
  inferInstanceAs (Decidable (_ ∧ _ ∧ _))

def checkParent (m : MapState N) (node : Component N) : Except MapError Unit :=
  match node.parentId with
  | none => .ok ()
  | some parentId =>
    match m.node parentId with
    | none => .error (.value "parent must be an existing group")
    | some parent => do
      require (parent.type = .group) "parent must be an existing group"
      require (fits parent.position node.position) "child must fit inside its group"

def checkComponent (m : MapState N) (node : Component N) : Except MapError Unit := do
  checkParent m node
  climb m containmentDepth [node.id] node.parentId

def checkRelation (m : MapState N) (edge : Relation) : Except MapError Unit :=
  require (m.node edge.source ≠ none ∧ m.node edge.target ≠ none ∧ edge.source ≠ edge.target)
    "invalid relation endpoints"

/-- `coherent_map` -/
def coherentMap (m : MapState N) : Except MapError Unit := do
  require ((m.components.map Component.id).Nodup) "duplicate component identity"
  m.components.forM (checkComponent m)
  require ((m.relations.map Relation.id).Nodup) "duplicate relation identity"
  m.relations.forM (checkRelation m)

end

/-- The ancestors of a component, from its parent on. -/
inductive Chain (m : MapState N) : Option String → List (Component N) → Prop where
  | root : Chain m none []
  | step {parentId : String} {parent : Component N} {rest : List (Component N)} :
      m.node parentId = some parent → Chain m parent.parentId rest →
        Chain m (some parentId) (parent :: rest)

end MapState

open MapState

variable {N : Type} {m : MapState N} {id parentId : String} {found node : Component N}
  {chain chain' : List (Component N)} {parent : Option String} {visited : List String} {fuel : Nat}
  {condition : Prop} [Decidable condition] {message : String}

@[simp] theorem require_eq_ok : require condition message = .ok () ↔ condition := by
  unfold require
  split_ifs with h <;> simp [h]

theorem mem_of_node (h : m.node id = some found) : found ∈ m.components ∧ found.id = id := by
  refine ⟨List.mem_reverse.mp (List.mem_of_find?_eq_some h), ?_⟩
  simpa using List.find?_some h

theorem exists_node (h : node ∈ m.components) : ∃ found, m.node node.id = some found := by
  have hfound : (m.components.reverse.find? fun other => other.id = node.id).isSome := by
    rw [List.find?_isSome]
    exact ⟨node, List.mem_reverse.mpr h, by simp⟩
  exact Option.isSome_iff_exists.mp hfound

/-- Where no identity is given twice, each component is the one of its identity. -/
theorem node_of_mem (hdistinct : (m.components.map Component.id).Nodup) (h : node ∈ m.components) :
    m.node node.id = some node := by
  obtain ⟨found, hfound⟩ := exists_node h
  obtain ⟨hmem, hid⟩ := mem_of_node hfound
  rw [hfound, List.inj_on_of_nodup_map hdistinct hmem h hid]

theorem edge_of_mem {edge : Relation} (hdistinct : (m.relations.map Relation.id).Nodup)
    (h : edge ∈ m.relations) : m.edge edge.id = some edge := by
  have hsome : (m.relations.reverse.find? fun other => other.id = edge.id).isSome := by
    rw [List.find?_isSome]
    exact ⟨edge, List.mem_reverse.mpr h, by simp⟩
  obtain ⟨found, hfound⟩ := Option.isSome_iff_exists.mp hsome
  have hmem := List.mem_reverse.mp (List.mem_of_find?_eq_some hfound)
  have hid : found.id = edge.id := by simpa using List.find?_some hfound
  rw [List.inj_on_of_nodup_map hdistinct hmem h hid] at hfound
  exact hfound

theorem mem_of_edge {edge : Relation} (h : m.edge id = some edge) :
    edge ∈ m.relations ∧ edge.id = id := by
  refine ⟨List.mem_reverse.mp (List.mem_of_find?_eq_some h), ?_⟩
  simpa using List.find?_some h

/-! Chains of ancestors. -/

theorem MapState.Chain.unique (h : Chain m parent chain) (h' : Chain m parent chain') :
    chain = chain' := by
  induction h generalizing chain' with
  | root =>
    cases h'
    rfl
  | step hparent _ ih =>
    cases h' with
    | step hparent' hrest' =>
      rw [hparent] at hparent'
      cases hparent'
      rw [ih hrest']

/-- A climb that ends has gone through the ancestors, one unit of fuel for each. -/
theorem chain_of_climb (h : m.climb fuel visited parent = .ok ()) :
    ∃ chain, Chain m parent chain ∧ chain.length ≤ fuel := by
  induction fuel generalizing visited parent with
  | zero =>
    cases parent with
    | none => exact ⟨[], .root, Nat.le_refl _⟩
    | some parentId => cases h
  | succ fuel ih =>
    cases parent with
    | none => exact ⟨[], .root, Nat.zero_le _⟩
    | some parentId =>
      obtain ⟨_, -, h⟩ := Fold.bind_eq_ok.mp h
      split at h
      · cases h
      · rename_i found hfound
        obtain ⟨chain, hchain, hlength⟩ := ih h
        exact ⟨found :: chain, .step hfound hchain, Nat.succ_le_succ hlength⟩

/-- What coherence gives: identities, and ancestors up to the containment depth. -/
structure Coherent (m : MapState N) : Prop where
  distinct : (m.components.map Component.id).Nodup
  distinctRelations : (m.relations.map Relation.id).Nodup
  chains : ∀ node ∈ m.components, ∃ chain, Chain m node.parentId chain ∧
    chain.length ≤ containmentDepth

theorem coherent_of_coherentMap [LinearOrder N] [Add N] [NatCast N] (h : m.coherentMap = .ok ()) :
    Coherent m := by
  obtain ⟨_, hdistinct, h⟩ := Fold.bind_eq_ok.mp h
  obtain ⟨_, hcomponents, h⟩ := Fold.bind_eq_ok.mp h
  obtain ⟨_, hrelations, -⟩ := Fold.bind_eq_ok.mp h
  refine ⟨require_eq_ok.mp hdistinct, require_eq_ok.mp hrelations, fun node hnode => ?_⟩
  obtain ⟨_, -, hclimb⟩ := Fold.bind_eq_ok.mp (Fold.forM_eq_ok.mp hcomponents node hnode)
  exact chain_of_climb hclimb

theorem Coherent.node_eq (h : Coherent m) : m.node id = some node ↔
    node ∈ m.components ∧ node.id = id := by
  refine ⟨mem_of_node, ?_⟩
  rintro ⟨hmem, rfl⟩
  exact node_of_mem h.distinct hmem

theorem Coherent.chain_length (h : Coherent m) (hnode : node ∈ m.components)
    (hchain : Chain m node.parentId chain) : chain.length ≤ containmentDepth := by
  obtain ⟨found, hfound, hlength⟩ := h.chains node hnode
  rwa [hchain.unique hfound]

end ResearchOs.Dashboard

/-! `check_agent_edit`: what an agent may change around human pins and outside its scope. -/
namespace ResearchOs.Dashboard

open MapState

variable {N : Type} [DecidableEq N]

/-- `not allowed.issubset(previous)` -/
def knownScope (before : MapState N) (allowed : List String) : Prop :=
  ∀ id ∈ allowed, before.node id ≠ none

/-- No component below a member of the scope is left out of it. -/
def includesChildren (before : MapState N) (allowed : List String) : Prop :=
  ∀ node ∈ before.components, (∃ parentId ∈ node.parentId, parentId ∈ allowed) → node.id ∈ allowed

/-- One component of a round: the set grows while the components are read. -/
def allowNew (before : MapState N) (allowed : List String) (node : Component N) : List String :=
  if before.node node.id = none ∧ (∃ parentId ∈ node.parentId, parentId ∈ allowed) then
    node.id :: allowed
  else allowed

/-- One round of `allowed.update` -/
def allowRound (before after : MapState N) (allowed : List String) : List String :=
  after.components.foldl (allowNew before) allowed

def expansionRounds : Nat := 8

def allowedIn (before after : MapState N) (scope : List String) : List String :=
  (allowRound before after)^[expansionRounds] scope

def identities (before after : MapState N) : List String :=
  before.components.map Component.id ++ after.components.map Component.id

def relationIdentities (before after : MapState N) : List String :=
  before.relations.map Relation.id ++ after.relations.map Relation.id

def sameOutside (before after : MapState N) (allowed : List String) : Prop :=
  ∀ id ∈ identities before after, id ∉ allowed → before.node id = after.node id

def relationsInside (before after : MapState N) (allowed : List String) : Prop :=
  ∀ id ∈ relationIdentities before after, before.edge id ≠ after.edge id →
    ∀ edge ∈ [before.edge id, after.edge id].reduceOption,
      edge.source ∈ allowed ∧ edge.target ∈ allowed

instance (before : MapState N) (allowed : List String) : Decidable (knownScope before allowed) :=
  inferInstanceAs (Decidable (∀ id ∈ allowed, _))

instance (before : MapState N) (allowed : List String) :
    Decidable (includesChildren before allowed) :=
  inferInstanceAs (Decidable (∀ node ∈ before.components, _))

instance (before after : MapState N) (allowed : List String) :
    Decidable (sameOutside before after allowed) :=
  inferInstanceAs (Decidable (∀ id ∈ identities before after, _))

instance (before after : MapState N) (allowed : List String) :
    Decidable (relationsInside before after allowed) :=
  inferInstanceAs (Decidable (∀ id ∈ relationIdentities before after, _))

/-- The checks of a scoped edit. -/
def checkScope (before after : MapState N) (scope : List String) : Except MapError Unit := do
  require (knownScope before scope) "unknown Agent scope"
  require (includesChildren before scope) "Agent scope must include region descendants"
  let allowed := allowedIn before after scope
  require (sameOutside before after allowed) "Agent edit exceeds frozen scope"
  require (relationsInside before after allowed) "Agent relation exceeds frozen scope"
  require (before.appearance = after.appearance ∧ before.viewport = after.viewport)
    "scoped Agent edit changes global appearance or viewport"

/-- What a pin holds fast. -/
def pinFields (node : Component N) :
    Position N × Option String × Bool × ComponentType × Option Binding :=
  (node.position, node.parentId, node.pinned, node.type, node.binding)

def placeFields (node : Component N) : N × N × Option String :=
  (node.position.x, node.position.y, node.parentId)

/-- The walk over the old ancestors of a pin; in a coherent map it ends within the fuel. -/
def checkAncestors (before after : MapState N) : Nat → Option String → Except MapError Unit
  | _, none => .ok ()
  | 0, some _ => .error .missingKey
  | fuel + 1, some parentId =>
    match before.node parentId with
    | none => .error .missingKey
    | some old => do
      let new := after.node parentId
      require (¬ ∃ node ∈ new, old.collapsed = false ∧ node.collapsed = true)
        "Agent edit hides a pinned descendant"
      require (new.map placeFields = some (placeFields old)) "Agent edit moves a pinned descendant"
      checkAncestors before after fuel old.parentId

def checkPin (before after : MapState N) (node : Component N) : Except MapError Unit :=
  if node.pinned then do
    require ((after.node node.id).map pinFields = some (pinFields node))
      "Agent edit conflicts with a human pin"
    checkAncestors before after containmentDepth node.parentId
  else .ok ()

/-- `if scope is not None` -/
def checkScoped (before after : MapState N) : Option (List String) → Except MapError Unit
  | none => .ok ()
  | some scope => checkScope before after scope

/-- `check_agent_edit` -/
def checkAgentEdit (before after : MapState N) (scope : Option (List String)) :
    Except MapError Unit := do
  checkScoped before after scope
  before.components.forM (checkPin before after)

variable {before after : MapState N} {scope : List String} {node new : Component N}
  {chain : List (Component N)} {parent : Option String} {id : String} {fuel : Nat}

/-! Pins. -/

/-- A component that an ancestor check lets pass keeps its place, and is not newly collapsed. -/
structure Stays (old new : Component N) : Prop where
  id : new.id = old.id
  place : placeFields new = placeFields old
  shown : old.collapsed = false → new.collapsed = false

theorem chain_of_checkAncestors (h : checkAncestors before after fuel parent = .ok ()) :
    ∃ chain chain', Chain before parent chain ∧ Chain after parent chain' ∧
      List.Forall₂ Stays chain chain' := by
  induction fuel generalizing parent with
  | zero =>
    cases parent with
    | none => exact ⟨[], [], .root, .root, .nil⟩
    | some parentId => cases h
  | succ fuel ih =>
    cases parent with
    | none => exact ⟨[], [], .root, .root, .nil⟩
    | some parentId =>
      rw [checkAncestors] at h
      split at h
      · cases h
      · rename_i old hold
        obtain ⟨_, hshown, h⟩ := Fold.bind_eq_ok.mp h
        obtain ⟨_, hplace, h⟩ := Fold.bind_eq_ok.mp h
        have hshown := require_eq_ok.mp hshown
        obtain ⟨new, hnew, hplace⟩ := Option.map_eq_some_iff.mp (require_eq_ok.mp hplace)
        obtain ⟨chain, chain', hchain, hchain', hstays⟩ := ih h
        have hparent : new.parentId = old.parentId := congrArg (fun place => place.2.2) hplace
        refine ⟨old :: chain, new :: chain', .step hold hchain, .step hnew (hparent ▸ hchain'),
          .cons ⟨?_, hplace, ?_⟩ hstays⟩
        · rw [(mem_of_node hnew).2, (mem_of_node hold).2]
        · intro hopen
          by_contra hcollapsed
          exact hshown ⟨new, hnew, hopen, by simpa using hcollapsed⟩

/-- The offsets of a component and its ancestors, added up. -/
def absolute [Add N] (node : Component N) (chain : List (Component N)) : N × N :=
  chain.foldl (fun sum ancestor => (sum.1 + ancestor.position.x, sum.2 + ancestor.position.y))
    (node.position.x, node.position.y)

/-- A pinned component is where and what it was, and no more hidden than it was. -/
def Kept [Add N] (before after : MapState N) (node : Component N) : Prop :=
  ∃ new ∈ after.components, ∃ chain chain', new.id = node.id ∧ new.pinned = true ∧
    Chain before node.parentId chain ∧ Chain after new.parentId chain' ∧
    chain'.map Component.id = chain.map Component.id ∧
    absolute new chain' = absolute node chain ∧
    new.position.width = node.position.width ∧ new.position.height = node.position.height ∧
    new.type = node.type ∧ new.binding = node.binding ∧
    ((∀ ancestor ∈ chain, ancestor.collapsed = false) →
      ∀ ancestor ∈ chain', ancestor.collapsed = false)

omit [DecidableEq N] in
theorem foldl_offsets_eq [Add N] {chain chain' : List (Component N)} {sum : N × N}
    (h : List.Forall₂ Stays chain chain') :
    chain'.foldl (fun sum ancestor => (sum.1 + ancestor.position.x, sum.2 + ancestor.position.y))
      sum = chain.foldl (fun sum ancestor =>
        (sum.1 + ancestor.position.x, sum.2 + ancestor.position.y)) sum := by
  induction h generalizing sum with
  | nil => rfl
  | cons hstays _ ih =>
    have hx := congrArg (fun place => place.1) hstays.place
    have hy := congrArg (fun place => place.2.1) hstays.place
    simp only [placeFields] at hx hy
    rw [List.foldl_cons, List.foldl_cons, hx, hy, ih]

theorem kept_of_checkPin [Add N] (hpinned : node.pinned = true)
    (h : checkPin before after node = .ok ()) : Kept before after node := by
  rw [checkPin, if_pos hpinned] at h
  obtain ⟨_, hfields, h⟩ := Fold.bind_eq_ok.mp h
  obtain ⟨new, hnew, hfields⟩ := Option.map_eq_some_iff.mp (require_eq_ok.mp hfields)
  obtain ⟨chain, chain', hchain, hchain', hstays⟩ := chain_of_checkAncestors h
  obtain ⟨hmem, hid⟩ := mem_of_node hnew
  simp only [pinFields, Prod.mk.injEq] at hfields
  obtain ⟨hposition, hparent, hpin, htype, hbinding⟩ := hfields
  refine ⟨new, hmem, chain, chain', hid, hpin.trans hpinned, hchain, hparent ▸ hchain', ?_, ?_,
    by rw [hposition], by rw [hposition], htype, hbinding, ?_⟩
  · exact (Fold.map_eq_map_of_forall₂ hstays fun _ _ hsame => hsame.id.symm).symm
  · rw [absolute, absolute, hposition, foldl_offsets_eq hstays]
  · intro hopen ancestor hancestor
    obtain ⟨old, hold, hsame⟩ := Fold.exists_of_mem_right hstays hancestor
    exact hsame.shown (hopen old hold)

theorem checkAgentEdit_eq_ok {scope : Option (List String)} :
    checkAgentEdit before after scope = .ok () ↔ checkScoped before after scope = .ok () ∧
      ∀ node ∈ before.components, checkPin before after node = .ok () := by
  rw [checkAgentEdit, Fold.bind_eq_ok, ← Fold.forM_eq_ok]
  exact ⟨fun ⟨_, hscoped, hpins⟩ => ⟨hscoped, hpins⟩, fun ⟨hscoped, hpins⟩ => ⟨_, hscoped, hpins⟩⟩

/-- An accepted edit keeps every pinned component, whatever it does to the ancestors. -/
theorem agentEdit_keeps_pins [Add N] (before after : MapState N) (scope : Option (List String))
    (h : checkAgentEdit before after scope = .ok ()) :
    ∀ node ∈ before.components, node.pinned = true → Kept before after node :=
  fun node hnode hpinned => kept_of_checkPin hpinned ((checkAgentEdit_eq_ok.mp h).2 node hnode)

def trialAppearance : Appearance Int := ⟨.graphite, "#f5f5f4", "#262626", .comfortable, 1⟩

def trialMap (components : List (Component Int)) : MapState Int :=
  ⟨components, [], trialAppearance, ⟨0, 0, 1⟩⟩

def trialComponent (id : String) (type : ComponentType) (parentId : Option String)
    (position : Position Int) : Component Int :=
  ⟨id, type, id, parentId, position, false, false, none, "", .summary⟩

def trialRegion : Component Int := trialComponent "region" .group none ⟨0, 0, 900, 900⟩

def trialNote : Component Int := trialComponent "note" .note (some "region") ⟨0, 48, 280, 190⟩

def trialPin : Component Int := { trialNote with pinned := true }

theorem agentEdit_keeps_pins_added : Kept (trialMap [trialRegion, trialPin])
    (trialMap [trialRegion, trialPin, trialComponent "other" .note none ⟨0, 0, 280, 190⟩])
    trialPin :=
  agentEdit_keeps_pins (trialMap [trialRegion, trialPin])
    (trialMap [trialRegion, trialPin, trialComponent "other" .note none ⟨0, 0, 280, 190⟩]) none
    (by decide +kernel) trialPin (by simp [trialMap]) rfl

/-- In a coherent map the walk over the ancestors of a pin never looks for a missing one. -/
theorem checkAncestors_ends (h : Chain before parent chain) (hfuel : chain.length ≤ fuel) :
    checkAncestors before after fuel parent ≠ .error .missingKey := by
  induction h generalizing fuel with
  | root => cases fuel <;> exact fun hmissing => by cases hmissing
  | @step parentId old rest hold _ ih =>
    cases fuel with
    | zero => simp at hfuel
    | succ fuel =>
      rw [checkAncestors, hold]
      intro hmissing
      rcases Fold.bind_eq_error.mp hmissing with hmissing | ⟨_, -, hmissing⟩
      · unfold require at hmissing
        split_ifs at hmissing
        cases hmissing
      · rcases Fold.bind_eq_error.mp hmissing with hmissing | ⟨_, -, hmissing⟩
        · unfold require at hmissing
          split_ifs at hmissing
          cases hmissing
        · exact ih (Nat.le_of_succ_le_succ hfuel) hmissing

end ResearchOs.Dashboard
