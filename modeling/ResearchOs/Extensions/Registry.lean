import Mathlib.Data.List.Induction
import Mathlib.Data.List.Nodup
import Mathlib.Logic.Relation
import ResearchOs.Data.Fold

/-! `PersistentExtensions`: what is installed and enabled, and what a dispatch rechecks. -/
namespace ResearchOs.Extensions

structure ExtensionError where
  code : String
  message : String
  deriving DecidableEq, Repr

/-- The exact identity and version of an extension. -/
abbrev Key := String × String

inductive Role where
  | brick
  | evaluator
  | provider
  deriving DecidableEq, Repr

/-- A parsed package: no dependency twice, none on itself, and no role twice. -/
structure ExtensionPackage where
  extensionId : String
  version : String
  interfaces : List Role
  dependencies : List Key
  someInterface : interfaces ≠ []
  uniqueInterfaces : interfaces.Nodup
  uniqueDependencies : dependencies.Nodup
  fewDependencies : dependencies.length ≤ 16
  notSelf : (extensionId, version) ∉ dependencies

def ExtensionPackage.key (package : ExtensionPackage) : Key :=
  (package.extensionId, package.version)

inductive Trust where
  | inert
  | reviewedSameUser
  deriving DecidableEq, Repr

def Trust.ofText (s : String) : Option Trust :=
  if s = "inert" then some .inert
  else if s = "reviewed-same-user" then some .reviewedSameUser
  else none

/-- A row of `extensions`; the stored text is the package. -/
structure Row where
  package : ExtensionPackage
  trust : Trust
  enabled : Bool

def Row.key (row : Row) : Key := row.package.key

abbrev Registry := List Row

def maxInstalled : Nat := 32

inductive Action where
  | enable
  | disable
  | uninstall
  deriving DecidableEq, Repr

def requireExtension (condition : Prop) [Decidable condition] (code message : String) :
    Except ExtensionError Unit :=
  if condition then .ok () else .error ⟨code, message⟩

namespace Registry

/-- `_rows` -/
def rows (registry : Registry) : Except ExtensionError (List Row) := do
  requireExtension (registry.length ≤ maxInstalled) "registry-invalid"
    "too many installed extensions"
  .ok registry

/-- The keys of the rows that are enabled. -/
def enabledKeys (registry : Registry) : List Key :=
  (registry.filter Row.enabled).map Row.key

/-- `install_package` -/
def installPackage (registry : Registry) (package : ExtensionPackage) (trust : String) :
    Except ExtensionError Registry := do
  match Trust.ofText trust with
  | none => .error ⟨"trust-unsupported", "no verified isolation profile for untrusted code"⟩
  | some trust => do
    let rows ← registry.rows
    requireExtension (package.key ∉ rows.map Row.key) "extension-duplicate" "already installed"
    requireExtension (rows.length < maxInstalled) "registry-full" "the extension limit is reached"
    requireExtension (∀ d ∈ package.dependencies, d ∈ enabledKeys rows) "dependency-missing"
      "an exact enabled dependency is missing"
    .ok (registry ++ [⟨package, trust, true⟩])

def setEnabled (registry : Registry) (key : Key) (enabled : Bool) : Registry :=
  registry.map fun row => if row.key = key then { row with enabled := enabled } else row

/-- The statement of an action. -/
def changed (registry : Registry) (key : Key) : Action → Registry
  | .uninstall => registry.filter fun row => row.key ≠ key
  | .enable => registry.setEnabled key true
  | .disable => registry.setEnabled key false

/-- `change` -/
def change (registry : Registry) (key : Key) (action : Action) :
    Except ExtensionError Registry := do
  let rows ← registry.rows
  requireExtension (key ∈ rows.map Row.key) "extension-unknown" "not installed"
  .ok (registry.changed key action)

/-- `run`, up to the start of the adapter: the row that is dispatched. -/
def dispatch (registry : Registry) (key : Key) (role : Role) (validInput : Bool) :
    Except ExtensionError Row := do
  let rows ← registry.rows
  match rows.find? fun row => row.key = key with
  | none => .error ⟨"extension-disabled", "the extension is missing or disabled"⟩
  | some row => do
    requireExtension (row.enabled = true) "extension-disabled"
      "the extension is missing or disabled"
    requireExtension (row.trust = .reviewedSameUser) "trust-unsupported"
      "inert declarations cannot dispatch"
    requireExtension (∀ d ∈ row.package.dependencies, d ∈ enabledKeys rows) "dependency-missing"
      "an enabled dependency is missing"
    requireExtension (role ∈ row.package.interfaces) "interface-missing" "the role is not declared"
    requireExtension (validInput = true) "message-invalid" "invalid adapter input envelope"
    .ok row

end Registry

/-- The operations of a client; an operation that fails leaves the registry as it was. -/
inductive Operation where
  | install (package : ExtensionPackage) (trust : String)
  | change (key : Key) (action : Action)
  | run (key : Key) (role : Role) (validInput : Bool)

def Operation.apply (registry : Registry) : Operation → Except ExtensionError Registry
  | .install package trust => registry.installPackage package trust
  | .change key action => registry.change key action
  | .run _ _ _ => .ok registry

def step (registry : Registry) (operation : Operation) : Registry :=
  (operation.apply registry).toOption.getD registry

def registryAfter (operations : List Operation) : Registry := operations.foldl step []

/-! What the registry says about a key. -/

variable {registry next : Registry} {row : Row} {key dependency : Key} {role : Role} {validInput : Bool}
  {operation : Operation} {operations : List Operation} {condition : Prop} [Decidable condition]
  {code message : String}

@[simp] theorem requireExtension_eq_ok :
    requireExtension condition code message = .ok () ↔ condition := by
  unfold requireExtension
  split_ifs with h <;> simp [h]

/-- The key is installed and enabled. -/
def Enabled (registry : Registry) (key : Key) : Prop :=
  ∃ row ∈ registry, row.key = key ∧ row.enabled = true

def DependsOn (registry : Registry) (key dependency : Key) : Prop :=
  ∃ row ∈ registry, row.key = key ∧ dependency ∈ row.package.dependencies

/-- No enabled extension misses a dependency. -/
def Intact (registry : Registry) : Prop :=
  ∀ row ∈ registry, row.enabled = true → ∀ d ∈ row.package.dependencies, Enabled registry d

/-- The primary key of the table, and its bound. -/
structure Admitted (registry : Registry) : Prop where
  keys : (registry.map Row.key).Nodup
  bounded : registry.length ≤ maxInstalled

theorem mem_enabledKeys : key ∈ registry.enabledKeys ↔ Enabled registry key := by
  simp only [Registry.enabledKeys, List.mem_map, List.mem_filter, Enabled]
  constructor
  · rintro ⟨row, ⟨hrow, henabled⟩, hkey⟩
    exact ⟨row, hrow, hkey, henabled⟩
  · rintro ⟨row, hrow, hkey, henabled⟩
    exact ⟨row, ⟨hrow, henabled⟩, hkey⟩

theorem rows_eq_ok {rows : List Row} (h : registry.rows = .ok rows) : rows = registry := by
  obtain ⟨_, -, h⟩ := Fold.bind_eq_ok.mp h
  cases h
  rfl

theorem Admitted.row_eq (h : Admitted registry) {row' : Row} (hrow : row ∈ registry)
    (hrow' : row' ∈ registry) (hkey : row.key = row'.key) : row = row' :=
  List.inj_on_of_nodup_map h.keys hrow hrow' hkey

/-- In an intact registry everything below an enabled extension is enabled. -/
theorem Intact.enabled_of_transGen (h : Intact registry) (hadmitted : Admitted registry)
    (hkey : Enabled registry key) (hbelow : Relation.TransGen (DependsOn registry) key dependency) :
    Enabled registry dependency := by
  have hdirect : ∀ {key dependency : Key}, Enabled registry key →
      DependsOn registry key dependency → Enabled registry dependency := by
    rintro key dependency ⟨row, hrow, hkey, henabled⟩ ⟨row', hrow', hkey', hdependency⟩
    obtain rfl := hadmitted.row_eq hrow hrow' (hkey.trans hkey'.symm)
    exact h row hrow henabled dependency hdependency
  induction hbelow with
  | single hdepends => exact hdirect hkey hdepends
  | tail _ hdepends ih => exact hdirect ih hdepends

/-! What each operation does. -/

theorem installPackage_ok {package : ExtensionPackage} {trust : String}
    (h : registry.installPackage package trust = .ok next) :
    package.key ∉ registry.map Row.key ∧ registry.length < maxInstalled ∧
      (∀ d ∈ package.dependencies, Enabled registry d) ∧
      ∃ trusted, next = registry ++ [⟨package, trusted, true⟩] := by
  unfold Registry.installPackage at h
  split at h
  · cases h
  · rename_i trusted _
    obtain ⟨rows, hrows, h⟩ := Fold.bind_eq_ok.mp h
    obtain rfl := rows_eq_ok hrows
    obtain ⟨_, hnew, h⟩ := Fold.bind_eq_ok.mp h
    obtain ⟨_, hroom, h⟩ := Fold.bind_eq_ok.mp h
    obtain ⟨_, hdependencies, h⟩ := Fold.bind_eq_ok.mp h
    cases h
    refine ⟨requireExtension_eq_ok.mp hnew, requireExtension_eq_ok.mp hroom, ?_, trusted, rfl⟩
    exact fun d hd => mem_enabledKeys.mp (requireExtension_eq_ok.mp hdependencies d hd)

theorem change_ok {action : Action} (h : registry.change key action = .ok next) :
    next = registry.changed key action := by
  obtain ⟨rows, _, h⟩ := Fold.bind_eq_ok.mp h
  obtain ⟨_, _, h⟩ := Fold.bind_eq_ok.mp h
  exact (Except.ok.inj h).symm

theorem dispatch_ok (h : registry.dispatch key role validInput = .ok row) :
    row ∈ registry ∧ row.key = key ∧ row.enabled = true ∧ row.trust = .reviewedSameUser ∧
      ∀ d ∈ row.package.dependencies, Enabled registry d := by
  obtain ⟨rows, hrows, hrun⟩ := Fold.bind_eq_ok.mp h
  obtain rfl := rows_eq_ok hrows
  split at hrun
  · cases hrun
  · rename_i found hfound
    obtain ⟨_, henabled, hrun⟩ := Fold.bind_eq_ok.mp hrun
    obtain ⟨_, htrust, hrun⟩ := Fold.bind_eq_ok.mp hrun
    obtain ⟨_, hdependencies, hrun⟩ := Fold.bind_eq_ok.mp hrun
    obtain ⟨_, -, hrun⟩ := Fold.bind_eq_ok.mp hrun
    obtain ⟨_, -, hrun⟩ := Fold.bind_eq_ok.mp hrun
    cases hrun
    refine ⟨List.mem_of_find?_eq_some hfound, by simpa using List.find?_some hfound,
      requireExtension_eq_ok.mp henabled, requireExtension_eq_ok.mp htrust, fun d hd => ?_⟩
    exact mem_enabledKeys.mp (requireExtension_eq_ok.mp hdependencies d hd)

theorem key_of_setEnabled {enabled : Bool} :
    (registry.setEnabled key enabled).map Row.key = registry.map Row.key := by
  rw [Registry.setEnabled, List.map_map]
  refine List.map_congr_left fun row _ => ?_
  simp only [Function.comp_apply]
  split_ifs <;> rfl

/-- An operation that succeeds. -/
theorem step_cases : step registry operation = registry ∨
    operation.apply registry = .ok (step registry operation) := by
  unfold step
  cases happly : operation.apply registry with
  | error e => exact .inl rfl
  | ok next => exact .inr rfl

theorem Admitted.apply (h : Admitted registry) (happly : operation.apply registry = .ok next) :
    Admitted next := by
  cases operation with
  | install package trust =>
    obtain ⟨hnew, hroom, -, trusted, rfl⟩ := installPackage_ok happly
    refine ⟨?_, ?_⟩
    · rw [List.map_append, List.map_singleton]
      exact List.nodup_append'.mpr ⟨h.keys, List.nodup_singleton _,
        List.disjoint_singleton.mpr hnew⟩
    · rw [List.length_append, List.length_singleton]
      exact hroom
  | change target action =>
    obtain rfl := change_ok happly
    cases action with
    | uninstall =>
      exact ⟨h.keys.sublist (List.filter_sublist.map _), 
        Nat.le_trans (List.length_filter_le _ _) h.bounded⟩
    | enable =>
      refine ⟨?_, ?_⟩
      · rw [Registry.changed, key_of_setEnabled]
        exact h.keys
      · rw [Registry.changed, Registry.setEnabled, List.length_map]
        exact h.bounded
    | disable =>
      refine ⟨?_, ?_⟩
      · rw [Registry.changed, key_of_setEnabled]
        exact h.keys
      · rw [Registry.changed, Registry.setEnabled, List.length_map]
        exact h.bounded
  | run _ _ _ =>
    cases happly
    exact h

theorem admitted_after (operations : List Operation) : Admitted (registryAfter operations) := by
  induction operations using List.reverseRecOn with
  | nil => exact ⟨List.nodup_nil, Nat.zero_le _⟩
  | append_singleton operations operation ih =>
    rw [registryAfter, List.foldl_append, List.foldl_cons, List.foldl_nil]
    rcases step_cases with hsame | happly
    · rw [hsame]
      exact ih
    · exact ih.apply happly

/-! Operations that leave no enabled extension without a dependency. -/

/-- A disabled or uninstalled extension is no dependency of an enabled one, and an extension is
enabled only after its dependencies. -/
def Careful (registry : Registry) : Operation → Prop
  | .change key .enable => ∀ row ∈ registry, row.key = key →
      ∀ d ∈ row.package.dependencies, Enabled registry d
  | .change key _ => ∀ row ∈ registry, row.enabled = true → key ∉ row.package.dependencies
  | _ => True

theorem Enabled.install (h : Enabled registry key) : Enabled (registry ++ [row]) key := by
  obtain ⟨found, hfound, hkey, henabled⟩ := h
  exact ⟨found, List.mem_append_left _ hfound, hkey, henabled⟩

theorem Enabled.setEnabled {changed : Key} {enabled : Bool} (h : Enabled registry key)
    (hkept : key ≠ changed ∨ enabled = true) : Enabled (registry.setEnabled changed enabled) key := by
  obtain ⟨found, hfound, hkey, henabled⟩ := h
  refine ⟨_, List.mem_map_of_mem hfound, ?_, ?_⟩
  · split_ifs <;> exact hkey
  · split_ifs with hchanged
    · exact hkept.resolve_left fun hne => hne (hkey.symm.trans hchanged)
    · exact henabled

theorem Enabled.uninstall {removed : Key} (h : Enabled registry key) (hkept : key ≠ removed) :
    Enabled (registry.filter fun row => row.key ≠ removed) key := by
  obtain ⟨found, hfound, hkey, henabled⟩ := h
  exact ⟨found, List.mem_filter.mpr ⟨hfound, decide_eq_true (hkey ▸ hkept)⟩, hkey, henabled⟩

theorem Intact.apply (h : Intact registry) (hcareful : Careful registry operation)
    (happly : operation.apply registry = .ok next) : Intact next := by
  cases operation with
  | install package trust =>
    obtain ⟨-, -, hdependencies, trusted, rfl⟩ := installPackage_ok happly
    intro row hrow henabled d hd
    rcases List.mem_append.mp hrow with hrow | hrow
    · exact (h row hrow henabled d hd).install
    · obtain rfl := List.mem_singleton.mp hrow
      exact (hdependencies d hd).install
  | change target action =>
    obtain rfl := change_ok happly
    cases action with
    | uninstall =>
      intro row hrow henabled d hd
      obtain ⟨hold, -⟩ := List.mem_filter.mp hrow
      refine (h row hold henabled d hd).uninstall ?_
      rintro rfl
      exact hcareful row hold henabled hd
    | enable =>
      intro row hrow henabled d hd
      obtain ⟨old, hold, rfl⟩ := List.mem_map.mp hrow
      by_cases hchanged : old.key = target
      · rw [if_pos hchanged] at hd
        exact (hcareful old hold hchanged d hd).setEnabled (.inr rfl)
      · rw [if_neg hchanged] at hd henabled
        exact (h old hold henabled d hd).setEnabled (.inr rfl)
    | disable =>
      intro row hrow henabled d hd
      obtain ⟨old, hold, rfl⟩ := List.mem_map.mp hrow
      by_cases hchanged : old.key = target
      · rw [if_pos hchanged] at henabled
        cases henabled
      · rw [if_neg hchanged] at hd henabled
        refine (h old hold henabled d hd).setEnabled (.inl ?_)
        rintro rfl
        exact hcareful old hold henabled hd
  | run _ _ _ =>
    cases happly
    exact h

/-- Careful operations keep the registry intact. -/
theorem intact_after (h : ∀ earlier operation later, operations = earlier ++ operation :: later →
    Careful (registryAfter earlier) operation) : Intact (registryAfter operations) := by
  induction operations using List.reverseRecOn with
  | nil => exact fun row hrow => absurd hrow List.not_mem_nil
  | append_singleton operations operation ih =>
    have hintact := ih fun earlier op later hsplit =>
      h earlier op (later ++ [operation]) (by rw [hsplit, List.append_assoc, List.cons_append])
    rw [registryAfter, List.foldl_append, List.foldl_cons, List.foldl_nil]
    rcases step_cases with hsame | happly
    · rw [hsame]
      exact hintact
    · exact hintact.apply (h operations operation [] rfl) happly

/-- After any operations, an extension is dispatched only if it and its direct dependencies are
enabled, and then, where no enabled extension misses a dependency, so is all that is below it.
Careful operations leave none missing. -/
theorem dispatch_closure (operations : List Operation) (key : Key) (role : Role) (validInput : Bool)
    (row : Row) (h : (registryAfter operations).dispatch key role validInput = .ok row) :
    Enabled (registryAfter operations) key ∧
      (∀ d, DependsOn (registryAfter operations) key d → Enabled (registryAfter operations) d) ∧
      (Intact (registryAfter operations) → ∀ d,
        Relation.TransGen (DependsOn (registryAfter operations)) key d →
          Enabled (registryAfter operations) d) ∧
      ((∀ earlier operation later, operations = earlier ++ operation :: later →
        Careful (registryAfter earlier) operation) → Intact (registryAfter operations)) := by
  obtain ⟨hrow, hkey, henabled, -, hdependencies⟩ := dispatch_ok h
  have hadmitted := admitted_after operations
  have hself : Enabled (registryAfter operations) key := ⟨row, hrow, hkey, henabled⟩
  refine ⟨hself, ?_, fun hintact d => hintact.enabled_of_transGen hadmitted hself, intact_after⟩
  rintro d ⟨row', hrow', hkey', hd⟩
  obtain rfl := hadmitted.row_eq hrow hrow' (hkey.trans hkey'.symm)
  exact hdependencies d hd

def trialPackage (id : String) (dependencies : List Key) (hunique : dependencies.Nodup)
    (hfew : dependencies.length ≤ 16) (hself : (id, "1") ∉ dependencies) : ExtensionPackage :=
  ⟨id, "1", [.evaluator], dependencies, by decide, by decide, hunique, hfew, hself⟩

/-- Three packages, each on the one before it. -/
def trialInstalls : List Operation :=
  [.install (trialPackage "a" [] (by decide) (by decide) (by decide)) "reviewed-same-user",
    .install (trialPackage "b" [("a", "1")] (by decide) (by decide) (by decide))
      "reviewed-same-user",
    .install (trialPackage "c" [("b", "1")] (by decide) (by decide) (by decide))
      "reviewed-same-user"]

theorem exists_dispatched {operations : List Operation} {key : Key}
    (h : ((registryAfter operations).dispatch key .evaluator true).toOption.isSome = true) :
    ∃ row, (registryAfter operations).dispatch key .evaluator true = .ok row := by
  cases hdispatch : (registryAfter operations).dispatch key .evaluator true with
  | error e =>
    rw [hdispatch] at h
    cases h
  | ok row => exact ⟨row, rfl⟩

theorem dispatch_closure_chain : Enabled (registryAfter trialInstalls) ("b", "1") := by
  obtain ⟨row, hrow⟩ : ∃ row, (registryAfter trialInstalls).dispatch ("c", "1") .evaluator true =
      .ok row := exists_dispatched (by decide +kernel)
  refine (dispatch_closure trialInstalls ("c", "1") .evaluator true row hrow).2.1 ("b", "1") ?_
  exact ⟨⟨trialPackage "c" [("b", "1")] (by decide) (by decide) (by decide), .reviewedSameUser,
    true⟩, List.mem_of_getLast? rfl, rfl, List.mem_singleton.mpr rfl⟩

/-- With the first one disabled, the last one is still dispatched. -/
theorem dispatch_with_disabled_closure :
    (∃ row, (registryAfter (trialInstalls ++ [.change ("a", "1") .disable])).dispatch ("c", "1")
      .evaluator true = .ok row) ∧
    Relation.TransGen (DependsOn (registryAfter (trialInstalls ++ [.change ("a", "1") .disable])))
      ("c", "1") ("a", "1") ∧
    ¬ Enabled (registryAfter (trialInstalls ++ [.change ("a", "1") .disable])) ("a", "1") := by
  refine ⟨exists_dispatched (by decide +kernel), ?_, ?_⟩
  · refine .tail (b := ("b", "1")) (.single ?_) ?_
    · exact ⟨⟨trialPackage "c" [("b", "1")] (by decide) (by decide) (by decide), .reviewedSameUser,
        true⟩, List.mem_of_getLast? rfl, rfl, List.mem_singleton.mpr rfl⟩
    · exact ⟨⟨trialPackage "b" [("a", "1")] (by decide) (by decide) (by decide), .reviewedSameUser,
        true⟩, List.mem_of_getElem? (i := 1) rfl, rfl, List.mem_singleton.mpr rfl⟩
  · rw [← mem_enabledKeys]
    decide +kernel

end ResearchOs.Extensions
