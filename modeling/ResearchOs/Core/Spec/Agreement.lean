import ResearchOs.Core.Spec.Bounds
import ResearchOs.Core.Spec.DumpKeys
import ResearchOs.Core.Spec.Spelling

/-! What the differences between two revisions say. -/
namespace ResearchOs.Spec

variable {old new : ResearchSpec} {changes : List SemanticChange}

theorem semanticDiff_ok (h : semanticDiff old new = .ok changes) :
    changes = documentChanges (old.dump true) (new.dump true) := by
  rw [semanticDiff] at h
  split_ifs at h
  exact (Except.ok.inj h).symm

/-- The names at the top of a spec. -/
def topNames : List String :=
  ["apiVersion", "kind", "metadata", "questions", "hypotheses", "evidence", "datasets", "models",
    "workflows", "evaluations", "resources", "policies", "extensions"]

theorem dump_members (spec : ResearchSpec) :
    ∃ members : Json.Members, spec.dump true = .obj members ∧ members.map Prod.fst = topNames :=
  ⟨_, rfl, rfl⟩

theorem mem_topNames {members : Json.Members} (h : members.map Prod.fst = topNames) {name : String}
    {value : Json} (hvalue : members.lookup name = some value) : name ∈ topNames := by
  rw [← h]
  exact List.mem_map_of_mem (Json.mem_of_lookup hvalue)

theorem Differs.topName {old new : Json.Members} {location : Location}
    (hold : old.map Prod.fst = topNames) (hnew : new.map Prod.fst = topNames)
    (h : Differs (.obj old) (.obj new) location) :
    ∃ name rest, location = .key name :: rest ∧ name ∈ topNames := by
  cases h with
  | values h => cases h
  | memberAdded _ hvalue => exact ⟨_, _, rfl, mem_topNames hnew hvalue⟩
  | memberRemoved hvalue _ => exact ⟨_, _, rfl, mem_topNames hold hvalue⟩
  | member hvalue _ _ => exact ⟨_, _, rfl, mem_topNames hold hvalue⟩

theorem rooted_dump (old new : ResearchSpec) : Rooted (old.dump true) (new.dump true) := by
  obtain ⟨members, hdump, hnames⟩ := dump_members old
  obtain ⟨members', hdump', hnames'⟩ := dump_members new
  intro location hdiffers
  rw [hdump, hdump'] at hdiffers
  obtain ⟨name, rest, rfl, hname⟩ := hdiffers.topName hnames hnames'
  refine ⟨name, rest, rfl, ?_⟩
  have hwritten : ∀ name ∈ topNames, escape name ≠ "" := by decide +kernel
  exact hwritten name hname

/-- The paths of the differences between two specs tell the places apart exactly when no place is
written, segment by segment, like another place where the specs differ. -/
theorem semanticDiff_identity (old new : ResearchSpec) (changes : List SemanticChange)
    (h : semanticDiff old new = .ok changes) :
    PathIdentity (old.dump true) (new.dump true) changes ↔
      Unambiguous (old.dump true) (new.dump true) := by
  rw [semanticDiff_ok h]
  exact documentChanges_identity (distinctKeys_dump old) (distinctKeys_dump new)
    (rooted_dump old new)


/-! A name that is written like the item of another name. -/

def variant (revision : PositiveInt) (title : String) (h : isNonEmptyText title = true)
    (extensions : JsonObject) : ResearchSpec where
  metadata := { id := name "project", revision := revision, title := ⟨title, h⟩ }
  extensions := extensions

/-- The item `b` of `x`, next to the name `x[id=b]`. -/
def doubled (value : String) : Json.Members :=
  [("x", .arr [.obj [("id", .str "b"), ("value", .str value)]]),
    ("x[id=b]", .obj [("value", .str value)])]

def firstDoubled : ResearchSpec :=
  variant one "Doubled" (by decide) ⟨doubled "old", by decide +kernel⟩

def secondDoubled : ResearchSpec :=
  variant ⟨2, by decide⟩ "Doubled" (by decide) ⟨doubled "new", by decide +kernel⟩

theorem doubled_changes : ∃ changes, semanticDiff firstDoubled secondDoubled = .ok changes ∧
    changes.map (·.path) = ["/extensions/x[id=b]/value", "/extensions/x[id=b]/value",
      "/metadata/revision"] :=
  ⟨documentChanges (firstDoubled.dump true) (secondDoubled.dump true), rfl, by decide +kernel⟩

theorem doubled_confused : firstDoubled.validate = .ok () ∧ secondDoubled.validate = .ok () ∧
    ∃ changes, semanticDiff firstDoubled secondDoubled = .ok changes ∧
      ¬ PathIdentity (firstDoubled.dump true) (secondDoubled.dump true) changes := by
  obtain ⟨changes, hchanges, hpaths⟩ := doubled_changes
  refine ⟨by decide, by decide, changes, hchanges, ?_⟩
  intro hidentity
  have hdistinct := hidentity.distinct
  rw [hpaths] at hdistinct
  revert hdistinct
  decide

theorem semanticDiff_identity_doubled :
    ¬ Unambiguous (firstDoubled.dump true) (secondDoubled.dump true) := by
  have hchanges : semanticDiff firstDoubled secondDoubled =
      .ok (documentChanges (firstDoubled.dump true) (secondDoubled.dump true)) := rfl
  rw [← semanticDiff_identity firstDoubled secondDoubled _ hchanges]
  intro hidentity
  have hdistinct := hidentity.distinct
  revert hdistinct
  decide +kernel

end ResearchOs.Spec

/-! When no differences are reported. -/
namespace ResearchOs.Spec

/-- Equality of JSON values up to the order of lists whose items are identified by id. -/
inductive Same : Json → Json → Prop
  | null : Same .null .null
  | bool (b : Bool) : Same (.bool b) (.bool b)
  | int (n : Int) : Same (.int n) (.int n)
  | float {x y : Binary64} (h : x.value = y.value) : Same (.float x) (.float y)
  | str (s : String) : Same (.str s) (.str s)
  | members {old new : Json.Members}
      (hnames : ∀ name, (old.lookup name).isSome = (new.lookup name).isSome)
      (h : ∀ name value other, old.lookup name = some value → new.lookup name = some other →
        Same value other) : Same (.obj old) (.obj new)
  | items {old new : List Json} (hold : isIdList old = true) (hnew : isIdList new = true)
      (hids : ∀ id, (itemWithId id old).isSome = (itemWithId id new).isSome)
      (h : ∀ id value other, itemWithId id old = some value → itemWithId id new = some other →
        Same value other) : Same (.arr old) (.arr new)
  | list {old new : List Json} (hplain : ¬ (isIdList old = true ∧ isIdList new = true))
      (hlength : old.length = new.length)
      (h : ∀ (i : Nat) (value other : Json), old[i]? = some value → new[i]? = some other →
        Same value other) : Same (.arr old) (.arr new)

/-- Lists in the same place of two documents that are not both identified by the ids of their
items. -/
inductive PlainLists : Json → Json → List Json → List Json → Prop
  | here {old new : List Json} (h : ¬ (isIdList old = true ∧ isIdList new = true)) :
      PlainLists (.arr old) (.arr new) old new
  | member {old new : Json.Members} {name : String} {value other : Json} {xs ys : List Json}
      (hold : old.lookup name = some value) (hnew : new.lookup name = some other)
      (h : PlainLists value other xs ys) : PlainLists (.obj old) (.obj new) xs ys
  | item {old new : List Json} {id : String} {value other : Json} {xs ys : List Json}
      (hids : isIdList old = true) (hids' : isIdList new = true)
      (hold : itemWithId id old = some value) (hnew : itemWithId id new = some other)
      (h : PlainLists value other xs ys) : PlainLists (.arr old) (.arr new) xs ys

/-- Documents that agree outside their plain lists. -/
inductive Outline : Json → Json → Prop
  | null : Outline .null .null
  | bool (b : Bool) : Outline (.bool b) (.bool b)
  | int (n : Int) : Outline (.int n) (.int n)
  | float {x y : Binary64} (h : x.value = y.value) : Outline (.float x) (.float y)
  | str (s : String) : Outline (.str s) (.str s)
  | members {old new : Json.Members}
      (hnames : ∀ name, (old.lookup name).isSome = (new.lookup name).isSome)
      (h : ∀ name value other, old.lookup name = some value → new.lookup name = some other →
        Outline value other) : Outline (.obj old) (.obj new)
  | items {old new : List Json} (hold : isIdList old = true) (hnew : isIdList new = true)
      (hids : ∀ id, (itemWithId id old).isSome = (itemWithId id new).isSome)
      (h : ∀ id value other, itemWithId id old = some value → itemWithId id new = some other →
        Outline value other) : Outline (.arr old) (.arr new)
  | list {old new : List Json} (hplain : ¬ (isIdList old = true ∧ isIdList new = true)) :
      Outline (.arr old) (.arr new)

variable {old new : Json} {location : Location}

/-- Documents are equal when they agree outside their plain lists and these are equal. -/
theorem same_iff : Same old new ↔
    Outline old new ∧ ∀ xs ys, PlainLists old new xs ys → Same (.arr xs) (.arr ys) := by
  constructor
  · intro h
    induction h with
    | null => exact ⟨.null, fun xs ys hlists => by cases hlists⟩
    | bool b => exact ⟨.bool b, fun xs ys hlists => by cases hlists⟩
    | int n => exact ⟨.int n, fun xs ys hlists => by cases hlists⟩
    | float h => exact ⟨.float h, fun xs ys hlists => by cases hlists⟩
    | str s => exact ⟨.str s, fun xs ys hlists => by cases hlists⟩
    | members hnames h ih =>
      refine ⟨.members hnames fun name value other hold hnew => (ih name value other hold hnew).1, ?_⟩
      intro xs ys hlists
      cases hlists with
      | member hold hnew hlists => exact (ih _ _ _ hold hnew).2 xs ys hlists
    | items hold hnew hids h ih =>
      refine ⟨.items hold hnew hids fun id value other hv hw => (ih id value other hv hw).1, ?_⟩
      intro xs ys hlists
      cases hlists with
      | here hplain => exact absurd ⟨hold, hnew⟩ hplain
      | item _ _ hv hw hlists => exact (ih _ _ _ hv hw).2 xs ys hlists
    | list hplain hlength h _ =>
      refine ⟨.list hplain, ?_⟩
      intro xs ys hlists
      cases hlists with
      | here _ => exact .list hplain hlength h
      | item hids hids' _ _ _ => exact absurd ⟨hids, hids'⟩ hplain
  · rintro ⟨houtline, hlists⟩
    induction houtline with
    | null => exact .null
    | bool b => exact .bool b
    | int n => exact .int n
    | float h => exact .float h
    | str s => exact .str s
    | members hnames _ ih =>
      exact .members hnames fun name value other hold hnew =>
        ih name value other hold hnew fun xs ys h => hlists xs ys (.member hold hnew h)
    | items hold hnew hids _ ih =>
      exact .items hold hnew hids fun id value other hv hw =>
        ih id value other hv hw fun xs ys h => hlists xs ys (.item hold hnew hv hw h)
    | list hplain => exact hlists _ _ (.here hplain)

theorem outline_scalars (hlist : old.valueType ≠ .list) (hdict : old.valueType ≠ .dict)
    (h : apart old new = false) : Outline old new := by
  cases old with
  | null => cases new <;> first | exact .null | cases h
  | bool b =>
    cases new with
    | bool c =>
      cases b <;> cases c <;> first | exact .bool _ | simp [apart, Json.hostEq, Json.number] at h
    | _ => cases h
  | int n =>
    cases new with
    | int m =>
      have hequal : m = n := by
        simpa [apart, Json.hostEq, Json.number, Json.valueType] using h
      rw [hequal]
      exact .int n
    | _ => cases h
  | float x =>
    cases new with
    | float y =>
      have hequal : y.value = x.value := by
        simpa [apart, Json.hostEq, Json.number, Json.valueType] using h
      exact .float hequal.symm
    | _ => cases h
  | str s =>
    cases new with
    | str t =>
      have hequal : t = s := by
        simpa [apart, Json.hostEq, Json.valueType] using h
      rw [hequal]
      exact .str s
    | _ => cases h
  | arr items => exact absurd rfl hlist
  | obj members => exact absurd rfl hdict

theorem outline_of_nowhere (h : ∀ location, ¬ Differs old new location) : Outline old new := by
  induction old using Json.induct generalizing new with
  | hscalar old hlist hdict =>
    refine outline_scalars hlist hdict ?_
    rw [← Bool.not_eq_true]
    exact fun hapart => h [] (.values hapart)
  | harr old ih =>
    cases new with
    | arr new =>
      by_cases hids : isIdList old = true ∧ isIdList new = true
      · obtain ⟨hold, hnew⟩ := hids
        refine .items hold hnew ?_ ?_
        · intro id
          cases hv : itemWithId id old with
          | none =>
            cases hw : itemWithId id new with
            | none => rfl
            | some other => exact absurd (.itemAdded hold hnew hv hw) (h [.item id])
          | some value =>
            cases hw : itemWithId id new with
            | none => exact absurd (.itemRemoved hold hnew hv hw) (h [.item id])
            | some other => rfl
        · intro id value other hv hw
          refine ih value ((itemWithId_eq_some hold).mp hv).1 ?_
          exact fun location hdiffers => h _ (.item hold hnew hv hw hdiffers)
      · exact .list hids
    | _ => exact absurd (.values rfl) (h [])
  | hobj old ih =>
    cases new with
    | obj new =>
      refine .members ?_ ?_
      · intro name
        cases hv : old.lookup name with
        | none =>
          cases hw : new.lookup name with
          | none => rfl
          | some other => exact absurd (.memberAdded hv hw) (h [.key name])
        | some value =>
          cases hw : new.lookup name with
          | none => exact absurd (.memberRemoved hv hw) (h [.key name])
          | some other => rfl
      · intro name value other hv hw
        refine ih (name, value) (Json.mem_of_lookup hv) ?_
        exact fun location hdiffers => h _ (.member hv hw hdiffers)
    | _ => exact absurd (.values rfl) (h [])

theorem hostEq_of_nowhere {xs ys : List Json} (hlists : PlainLists old new xs ys)
    (h : ∀ location, ¬ Differs old new location) : Json.hostEqItems xs ys = true := by
  induction hlists with
  | @here xs ys hplain =>
    by_contra hne
    refine h [] (.values ?_)
    have hids : (isIdList xs && isIdList ys) = false := by
      rw [Bool.eq_false_iff, Ne, Bool.and_eq_true]
      exact hplain
    rw [apart, Bool.eq_false_iff.mpr hne, hids]
    rfl
  | member hold hnew _ ih => exact ih fun location hdiffers => h _ (.member hold hnew hdiffers)
  | item hids hids' hold hnew _ ih =>
    exact ih fun location hdiffers => h _ (.item hids hids' hold hnew hdiffers)

theorem Outline.not_apart (h : Outline old new)
    (hlists : ∀ xs ys, PlainLists old new xs ys → Json.hostEqItems xs ys = true) :
    apart old new = false := by
  cases h with
  | null => rfl
  | bool b => simp [apart, Json.hostEq, Json.number]
  | int n => simp [apart, Json.hostEq, Json.number]
  | float h => simp [apart, Json.hostEq, Json.number, Json.valueType, h]
  | str s => simp [apart, Json.hostEq]
  | members _ _ => rfl
  | items hold hnew _ _ => simp [apart, hold, hnew]
  | list hplain => simp [apart, hlists _ _ (.here hplain)]

theorem Outline.nowhere (h : Outline old new)
    (hlists : ∀ xs ys, PlainLists old new xs ys → Json.hostEqItems xs ys = true)
    (hdiffers : Differs old new location) : False := by
  induction hdiffers with
  | values hapart =>
    rw [h.not_apart hlists] at hapart
    cases hapart
  | @memberAdded _ _ name _ hold hnew =>
    cases h with
    | members hnames _ => simpa [hold, hnew] using hnames name
  | @memberRemoved _ _ name _ hold hnew =>
    cases h with
    | members hnames _ => simpa [hold, hnew] using hnames name
  | member hold hnew _ ih =>
    cases h with
    | members _ h =>
      exact ih (h _ _ _ hold hnew) fun xs ys hplain => hlists xs ys (.member hold hnew hplain)
  | @itemAdded _ _ id _ hids hids' hold hnew =>
    cases h with
    | items _ _ hsame _ => simpa [hold, hnew] using hsame id
    | list hplain => exact hplain ⟨hids, hids'⟩
  | @itemRemoved _ _ id _ hids hids' hold hnew =>
    cases h with
    | items _ _ hsame _ => simpa [hold, hnew] using hsame id
    | list hplain => exact hplain ⟨hids, hids'⟩
  | item hids hids' hold hnew _ ih =>
    cases h with
    | items _ _ _ h =>
      exact ih (h _ _ _ hold hnew) fun xs ys hplain => hlists xs ys (.item hids hids' hold hnew hplain)
    | list hplain => exact hplain ⟨hids, hids'⟩

/-- Nothing is reported when the documents agree outside their plain lists and these are equal in
the host language. -/
theorem nowhere_differs_iff : (∀ location, ¬ Differs old new location) ↔
    Outline old new ∧ ∀ xs ys, PlainLists old new xs ys → Json.hostEqItems xs ys = true :=
  ⟨fun h => ⟨outline_of_nowhere h, fun _ _ hlists => hostEq_of_nowhere hlists h⟩,
    fun h _ hdiffers => h.1.nowhere h.2 hdiffers⟩


/-! The revision, which every two revisions differ in. -/

def revisionPlace : Location := [.key "metadata", .key "revision"]

/-- The spec, under another revision number. -/
def ResearchSpec.withRevision (spec : ResearchSpec) (revision : PositiveInt) : ResearchSpec :=
  { spec with metadata := { spec.metadata with revision := revision } }

theorem lookup_replaced {before after : Json.Members} {key name : String} (value other : Json)
    (h : name ≠ key) : (before ++ (key, value) :: after).lookup name =
      (before ++ (key, other) :: after).lookup name := by
  simp [List.lookup_append, List.lookup_cons, beq_eq_false_iff_ne.mpr h]

theorem differs_key_congr {old new new' : Json.Members} {name : String} {rest : Location}
    (h : new.lookup name = new'.lookup name)
    (hdiffers : Differs (.obj old) (.obj new) (.key name :: rest)) :
    Differs (.obj old) (.obj new') (.key name :: rest) := by
  cases hdiffers with
  | memberAdded hold hnew => exact .memberAdded hold (h ▸ hnew)
  | memberRemoved hold hnew => exact .memberRemoved hold (h ▸ hnew)
  | member hold hnew hdiffers => exact .member hold (h ▸ hnew) hdiffers

theorem differs_key_iff {old new : Json.Members} {name : String} {value other : Json}
    {rest : Location} (hold : old.lookup name = some value) (hnew : new.lookup name = some other) :
    Differs (.obj old) (.obj new) (.key name :: rest) ↔ Differs value other rest := by
  constructor
  · intro h
    cases h with
    | memberAdded habsent _ => rw [hold] at habsent; cases habsent
    | memberRemoved _ habsent => rw [hnew] at habsent; cases habsent
    | member hold' hnew' h =>
      rw [hold] at hold'
      rw [hnew] at hnew'
      cases hold'
      cases hnew'
      exact h
  · exact .member hold hnew


theorem differs_obj {old new : Json.Members} (h : Differs (.obj old) (.obj new) location) :
    ∃ name rest, location = .key name :: rest ∧
      (name ∈ old.map Prod.fst ∨ name ∈ new.map Prod.fst) := by
  cases h with
  | values h => cases h
  | memberAdded _ hvalue =>
    exact ⟨_, _, rfl, .inr (List.mem_map_of_mem (Json.mem_of_lookup hvalue))⟩
  | memberRemoved hvalue _ =>
    exact ⟨_, _, rfl, .inl (List.mem_map_of_mem (Json.mem_of_lookup hvalue))⟩
  | member hvalue _ _ => exact ⟨_, _, rfl, .inl (List.mem_map_of_mem (Json.mem_of_lookup hvalue))⟩

/-- The members of the metadata before and behind the revision. -/
def beforeRevision (project : ProjectMetadata) : Json.Members := [("id", scalar project.id)]

def behindRevision (project : ProjectMetadata) : Json.Members :=
  [("title", scalar project.title), ("description", (project.description.map scalar).getD .null),
    ("labels", .obj (Json.ofPairs (project.labels.map fun label => (label.1, .str label.2))))]

theorem metadata_dump (project : ProjectMetadata) : project.dump true =
    .obj (beforeRevision project ++ ("revision", positive project.revision) ::
      behindRevision project) := by
  rw [ProjectMetadata.dump, optional_true]
  rfl

/-- The members of a spec before and behind its metadata. -/
def beforeMetadata : Json.Members :=
  [("apiVersion", .str "researchos.dev/v0alpha1"), ("kind", .str "ResearchProject")]

def behindMetadata (spec : ResearchSpec) : Json.Members :=
  [("questions", .arr (spec.questions.map (ResearchQuestion.dump true))),
    ("hypotheses", .arr (spec.hypotheses.map (Hypothesis.dump true))),
    ("evidence", .arr (spec.evidence.map (EvidenceRecord.dump true))),
    ("datasets", .arr (spec.datasets.map (DatasetSpec.dump true))),
    ("models", .arr (spec.models.map (ModelSpec.dump true))),
    ("workflows", .arr (spec.workflows.map (WorkflowSpec.dump true))),
    ("evaluations", .arr (spec.evaluations.map (EvaluationSpec.dump true))),
    ("resources", .arr (spec.resources.map (ResourceSpec.dump true))),
    ("policies", spec.policies.dump), ("extensions", .obj spec.extensions.val)]

theorem dump_metadata (spec : ResearchSpec) : spec.dump true =
    .obj (beforeMetadata ++ ("metadata", spec.metadata.dump true) :: behindMetadata spec) := rfl

theorem differs_metadata_iff (old new : ResearchSpec) (rest : Location) :
    Differs (old.dump true) (new.dump true) (.key "metadata" :: rest) ↔
      Differs (old.metadata.dump true) (new.metadata.dump true) rest := by
  rw [dump_metadata, dump_metadata]
  exact differs_key_iff rfl rfl

theorem differs_positive {m n : PositiveInt} (h : Differs (positive m) (positive n) location) :
    location = [] ∧ m ≠ n := by
  cases h with
  | values hapart =>
    refine ⟨rfl, ?_⟩
    rintro rfl
    simp [apart, positive, Json.hostEq, Json.number] at hapart

/-- Under the same revision, two specs differ in the same places except for the revision. -/
theorem differs_withRevision_iff (old new : ResearchSpec) (location : Location) :
    Differs (old.dump true) ((new.withRevision old.metadata.revision).dump true) location ↔
      Differs (old.dump true) (new.dump true) location ∧ location ≠ revisionPlace := by
  have hother : ∀ {revision revision' : PositiveInt} {name : String} {rest : Location},
      name ≠ "metadata" →
      Differs (old.dump true) ((new.withRevision revision).dump true) (.key name :: rest) →
      Differs (old.dump true) ((new.withRevision revision').dump true) (.key name :: rest) := by
    intro revision revision' name rest hne h
    rw [dump_metadata, dump_metadata] at h ⊢
    exact differs_key_congr (lookup_replaced _ _ hne) h
  have hmetadata : ∀ {revision revision' : PositiveInt} {name : String} {rest : Location},
      name ≠ "revision" →
      Differs (old.dump true) ((new.withRevision revision).dump true)
        (.key "metadata" :: .key name :: rest) →
      Differs (old.dump true) ((new.withRevision revision').dump true)
        (.key "metadata" :: .key name :: rest) := by
    intro revision revision' name rest hne h
    rw [differs_metadata_iff, metadata_dump, metadata_dump] at h ⊢
    exact differs_key_congr (lookup_replaced _ _ hne) h
  have hsame : new.withRevision new.metadata.revision = new := rfl
  have hsplit : ∀ {revision : PositiveInt},
      Differs (old.dump true) ((new.withRevision revision).dump true) location →
      (∃ name rest, location = .key name :: rest ∧ name ≠ "metadata") ∨
      (∃ name rest, location = .key "metadata" :: .key name :: rest ∧ name ≠ "revision") ∨
      location = revisionPlace ∧ old.metadata.revision ≠ revision := by
    intro revision h
    rw [dump_metadata, dump_metadata] at h
    obtain ⟨name, rest, rfl, -⟩ := differs_obj h
    by_cases hname : name = "metadata"
    · subst hname
      rw [← dump_metadata, ← dump_metadata, differs_metadata_iff, metadata_dump, metadata_dump] at h
      obtain ⟨inner, rest, rfl, -⟩ := differs_obj h
      by_cases hinner : inner = "revision"
      · subst hinner
        obtain ⟨rfl, hne⟩ := differs_positive ((differs_key_iff rfl rfl).mp h)
        exact .inr (.inr ⟨rfl, hne⟩)
      · exact .inr (.inl ⟨inner, rest, rfl, hinner⟩)
    · exact .inl ⟨name, rest, rfl, hname⟩
  constructor
  · intro h
    rw [← hsame]
    rcases hsplit h with ⟨name, rest, rfl, hne⟩ | ⟨name, rest, rfl, hne⟩ | ⟨-, hne⟩
    · exact ⟨hother hne h, by simp [revisionPlace, hne]⟩
    · exact ⟨hmetadata hne h, by simp [revisionPlace, hne]⟩
    · exact absurd rfl hne
  · rintro ⟨h, hplace⟩
    rw [← hsame] at h
    rcases hsplit h with ⟨name, rest, rfl, hne⟩ | ⟨name, rest, rfl, hne⟩ | ⟨rfl, -⟩
    · exact hother hne h
    · exact hmetadata hne h
    · exact absurd rfl hplace


theorem name_of_written {names : List String} {target name : String} {rest : List Char}
    (hname : name ∈ names) (hwritten : (escape name).toList ++ rest = target.toList)
    (honly : ∀ name ∈ names, (escape name).toList <+: target.toList → name = target) :
    name = target :=
  honly name hname ⟨rest, hwritten⟩

/-- Where two specs differ, only the revision is written as it is. -/
theorem revisionPlace_of_written (old new : ResearchSpec)
    (h : Differs (old.dump true) (new.dump true) location)
    (hwritten : written location = written revisionPlace) : location = revisionPlace := by
  obtain ⟨members, hdump, hnames⟩ := dump_members old
  obtain ⟨members', hdump', hnames'⟩ := dump_members new
  have hdiffers := h
  rw [hdump, hdump'] at hdiffers
  obtain ⟨name, rest, rfl, hname⟩ := hdiffers.topName hnames hnames'
  obtain ⟨hfirst, hrest⟩ := List.cons.inj (congrArg Prod.snd hwritten)
  obtain rfl : name = "metadata" := name_of_written hname hfirst (by decide +kernel)
  rw [differs_metadata_iff, metadata_dump, metadata_dump] at h
  obtain ⟨inner, rest, rfl, hinner⟩ := differs_obj h
  obtain ⟨hsecond, -⟩ := List.cons.inj hrest
  have hnames : inner ∈ ["id", "revision", "title", "description", "labels"] := hinner.elim id id
  obtain rfl : inner = "revision" := name_of_written hnames hsecond (by decide +kernel)
  obtain ⟨rfl, -⟩ := differs_positive ((differs_key_iff rfl rfl).mp h)
  rfl

/-- Nothing but the revision is reported to have changed. -/
def OnlyRevision (changes : List SemanticChange) : Prop :=
  ∀ change ∈ changes, change.path = "/metadata/revision"

theorem onlyRevision_iff (old new : ResearchSpec) :
    OnlyRevision (documentChanges (old.dump true) (new.dump true)) ↔
      ∀ location, ¬ Differs (old.dump true) ((new.withRevision old.metadata.revision).dump true)
        location := by
  have hplace : shown (spell revisionPlace) = "/metadata/revision" := by decide +kernel
  have hroot : spell revisionPlace ≠ "" ∧ spell revisionPlace ≠ "/" := by decide +kernel
  have hpaths := documentChanges_paths (old.dump true) (new.dump true)
  constructor
  · intro honly location hdiffers
    obtain ⟨hdiffers, hne⟩ := (differs_withRevision_iff old new location).mp hdiffers
    obtain ⟨d, hd, hpath⟩ := hdiffers.reported []
    have hmem : shown (spell d.path) ∈
        (documentChanges (old.dump true) (new.dump true)).map (·.path) := by
      rw [hpaths]
      exact List.mem_map.mpr ⟨d, hd, rfl⟩
    obtain ⟨change, hchange, hshown⟩ := List.mem_map.mp hmem
    rw [honly change hchange, ← hplace, hpath, List.nil_append] at hshown
    exact hne (revisionPlace_of_written old new hdiffers ((shown_eq_iff hroot).mp hshown.symm))
  · intro hnone change hchange
    have hmem : change.path ∈ (documentChanges (old.dump true) (new.dump true)).map (·.path) :=
      List.mem_map_of_mem hchange
    rw [hpaths] at hmem
    obtain ⟨d, hd, hshown⟩ := List.mem_map.mp hmem
    obtain ⟨location, hpath, hdiffers⟩ :=
      sound_of_distinctKeys (distinctKeys_dump old) (distinctKeys_dump new) [] d hd
    by_cases hlocation : location = revisionPlace
    · rw [← hshown, hpath, hlocation]
      exact hplace
    · exact absurd ((differs_withRevision_iff old new location).mpr ⟨hdiffers, hlocation⟩)
        (hnone location)

/-- The documents of two specs, under one revision, agree outside their plain lists. -/
def AgreeOutside (old new : ResearchSpec) : Prop :=
  Outline (old.dump true) ((new.withRevision old.metadata.revision).dump true)

/-- A property of every two plain lists in the same place of the two specs. -/
def EveryPlainList (old new : ResearchSpec) (P : List Json → List Json → Prop) : Prop :=
  ∀ xs ys, PlainLists (old.dump true) ((new.withRevision old.metadata.revision).dump true) xs ys →
    P xs ys

/-- No change is reported exactly when the specs are equal, if and only if the host language and
the values agree about the plain lists of specs that agree outside of these. -/
theorem semanticDiff_complete (old new : ResearchSpec) (changes : List SemanticChange)
    (h : semanticDiff old new = .ok changes) :
    (OnlyRevision changes ↔
      Same (old.dump true) ((new.withRevision old.metadata.revision).dump true)) ↔
    (AgreeOutside old new →
      (EveryPlainList old new (fun xs ys => Json.hostEqItems xs ys = true) ↔
        EveryPlainList old new fun xs ys => Same (.arr xs) (.arr ys))) := by
  rw [semanticDiff_ok h, onlyRevision_iff, nowhere_differs_iff, same_iff]
  exact and_congr_right_iff


/-! A list whose item turns from a truth value into a number. -/

def marked (value : Json) : Json.Members := [("x", .arr [value])]

def firstMarked : ResearchSpec :=
  variant one "Marked" (by decide) ⟨marked (.bool true), by decide +kernel⟩

def secondMarked : ResearchSpec :=
  variant ⟨2, by decide⟩ "Marked" (by decide) ⟨marked (.int 1), by decide +kernel⟩

theorem marked_changes :
    semanticDiff firstMarked secondMarked =
      .ok (documentChanges (firstMarked.dump true) (secondMarked.dump true)) ∧
    OnlyRevision (documentChanges (firstMarked.dump true) (secondMarked.dump true)) := by
  have hpaths : (documentChanges (firstMarked.dump true) (secondMarked.dump true)).map (·.path) =
      ["/metadata/revision"] := by decide +kernel
  refine ⟨rfl, ?_⟩
  intro change hchange
  have hmem := List.mem_map_of_mem (f := SemanticChange.path) hchange
  rw [hpaths] at hmem
  exact List.mem_singleton.mp hmem

theorem marked_not_same : ¬ Same (firstMarked.dump true)
    ((secondMarked.withRevision firstMarked.metadata.revision).dump true) := by
  intro hsame
  have hplain : PlainLists (firstMarked.dump true)
      ((secondMarked.withRevision firstMarked.metadata.revision).dump true)
      [.bool true] [.int 1] := by
    rw [dump_metadata, dump_metadata]
    refine @PlainLists.member _ _ "extensions" _ _ _ _ rfl rfl ?_
    exact @PlainLists.member _ _ "x" _ _ _ _ rfl rfl (.here (by decide))
  cases (same_iff.mp hsame).2 _ _ hplain with
  | items hids _ _ _ => exact absurd hids (by decide)
  | list _ _ h => cases h 0 (.bool true) (.int 1) rfl rfl

theorem marked_unreported : firstMarked.validate = .ok () ∧ secondMarked.validate = .ok () ∧
    ∃ changes, semanticDiff firstMarked secondMarked = .ok changes ∧
      ¬ (OnlyRevision changes ↔ Same (firstMarked.dump true)
        ((secondMarked.withRevision firstMarked.metadata.revision).dump true)) := by
  obtain ⟨hchanges, honly⟩ := marked_changes
  exact ⟨by decide, by decide, _, hchanges, fun h => marked_not_same (h.mp honly)⟩

theorem semanticDiff_complete_marked : ¬ (AgreeOutside firstMarked secondMarked →
    (EveryPlainList firstMarked secondMarked (fun xs ys => Json.hostEqItems xs ys = true) ↔
      EveryPlainList firstMarked secondMarked fun xs ys => Same (.arr xs) (.arr ys))) := by
  obtain ⟨hchanges, honly⟩ := marked_changes
  rw [← semanticDiff_complete firstMarked secondMarked _ hchanges]
  exact fun h => marked_not_same (h.mp honly)

end ResearchOs.Spec
