import ResearchOs.Data.Fold
import ResearchOs.Data.SortBy
import ResearchOs.Events.Scalars

/-! Transfer manifests: the files that one grant moves between two roots. -/
namespace ResearchOs.Transfer

structure TransferError where
  message : String
  code : String
  deriving DecidableEq, Repr

def invalidManifest : TransferError := ⟨"transfer manifest is invalid", "transfer-manifest-invalid"⟩

def unauthorizedPath : TransferError :=
  ⟨"transfer path is not authorized", "transfer-path-unauthorized"⟩

def fileCountBound : TransferError := ⟨"transfer file count is outside its bound", "transfer-bound"⟩

def fileSizeBound : TransferError := ⟨"transfer file size is outside its bound", "transfer-bound"⟩

def byteTotalBound : TransferError := ⟨"transfer byte total is outside its bound", "transfer-bound"⟩

def maxTransferFiles : Nat := 32

/-- `MAX_WORKER_PUT_BYTES`, of one file and of all files. -/
def maxTransferBytes : Nat := 268435456

inductive TransferDirection where
  | input
  | output
  deriving DecidableEq, Repr

def TransferDirection.ofText (s : String) : Option TransferDirection :=
  if s = "input" then some .input else if s = "output" then some .output else none

/-- `relative.split("/")` -/
def components (path : String) : List (List Char) := path.toList.splitOn '/'

def isComponentTail (c : Char) : Bool := c.isAlphanum || c == '.' || c == '_' || c == '-'

/-- `[A-Za-z0-9][A-Za-z0-9._-]{0,63}` -/
def isComponent : List Char → Bool
  | [] => false
  | c :: cs => c.isAlphanum && cs.all isComponentTail && decide (cs.length ≤ 63)

/-- `_PATH`: one to eight components. -/
def isTransferPath (path : String) : Bool :=
  (components path).all isComponent && decide ((components path).length ≤ 8)

structure TransferFile where
  relativePath : String
  digest : String
  sizeBytes : Nat
  deriving DecidableEq, Repr

def TransferFile.parts (item : TransferFile) : List (List Char) := components item.relativePath

structure TransferManifest where
  grantId : String
  taskId : String
  runId : String
  attemptId : String
  direction : TransferDirection
  files : List TransferFile
  deriving DecidableEq, Repr

def require (condition : Prop) [Decidable condition] (error : TransferError) :
    Except TransferError Unit :=
  if condition then .ok () else .error error

/-- `_file` -/
def file : Json → Except TransferError TransferFile
  | .obj body =>
    match body.lookup "path" with
    | some (.str path) => do
      require (isTransferPath path = true) unauthorizedPath
      match body.lookup "digest", body.lookup "sizeBytes" with
      | some (.str digest), some (.int size) => do
        require (isSha256Digest digest = true) invalidManifest
        require (0 ≤ size ∧ size ≤ maxTransferBytes) fileSizeBound
        .ok ⟨path, digest, size.toNat⟩
      | _, _ => .error invalidManifest
    | _ => .error unauthorizedPath
  | _ => .error invalidManifest

/-- `_identifier` -/
def identifier : Option Json → Except TransferError String
  | some (.str value) => do
    require (isEventIdentifier value = true) invalidManifest
    .ok value
  | _ => .error invalidManifest

/-- The loop over the listed files: the files so far, and their bytes. -/
def addFile (sofar : List TransferFile × Nat) (item : Json) :
    Except TransferError (List TransferFile × Nat) := do
  let parsed ← file item
  require (parsed.relativePath ∉ sofar.1.map TransferFile.relativePath) unauthorizedPath
  require (sofar.2 + parsed.sizeBytes ≤ maxTransferBytes) byteTotalBound
  .ok (sofar.1 ++ [parsed], sofar.2 + parsed.sizeBytes)

/-- `manifest_from_document` -/
def manifestFromDocument : Json → Except TransferError TransferManifest
  | .obj body =>
    match body.lookup "direction" with
    | some (.str text) =>
      match TransferDirection.ofText text with
      | none => .error invalidManifest
      | some direction =>
        match body.lookup "files" with
        | some (.arr items) => do
          require (items ≠ [] ∧ items.length ≤ maxTransferFiles) fileCountBound
          let (files, _) ← items.foldlM addFile ([], 0)
          let grantId ← identifier (body.lookup "grantId")
          let taskId ← identifier (body.lookup "taskId")
          let runId ← identifier (body.lookup "runId")
          let attemptId ← identifier (body.lookup "attemptId")
          .ok ⟨grantId, taskId, runId, attemptId, direction,
            SortBy.sortBy TransferFile.relativePath files⟩
        | _ => .error fileCountBound
    | _ => .error invalidManifest
  | _ => .error invalidManifest

/-! What an accepted manifest lists. -/

variable {condition : Prop} [Decidable condition] {error : TransferError} {document item : Json}
  {manifest : TransferManifest} {parsed : TransferFile} {path path' : String}

@[simp] theorem require_eq_ok : require condition error = .ok () ↔ condition := by
  unfold require
  split_ifs with h <;> simp [h]

theorem isTransferPath_of_file (h : file item = .ok parsed) :
    isTransferPath parsed.relativePath = true := by
  unfold file at h
  split at h
  · split at h
    · obtain ⟨_, hpath, h⟩ := Fold.bind_eq_ok.mp h
      split at h
      · obtain ⟨_, -, h⟩ := Fold.bind_eq_ok.mp h
        obtain ⟨_, -, h⟩ := Fold.bind_eq_ok.mp h
        cases h
        exact require_eq_ok.mp hpath
      · cases h
    · cases h
  · cases h

/-- The listed files so far: each at its own path, and each path of the allowed form. -/
structure Listed (files : List TransferFile) : Prop where
  paths : ∀ item ∈ files, isTransferPath item.relativePath = true
  distinct : (files.map TransferFile.relativePath).Nodup

theorem Listed.add {sofar next : List TransferFile × Nat} (h : Listed sofar.1)
    (hadd : addFile sofar item = .ok next) : Listed next.1 := by
  obtain ⟨parsed, hparsed, hadd⟩ := Fold.bind_eq_ok.mp hadd
  obtain ⟨_, hnew, hadd⟩ := Fold.bind_eq_ok.mp hadd
  obtain ⟨_, -, hadd⟩ := Fold.bind_eq_ok.mp hadd
  cases hadd
  have hnew := require_eq_ok.mp hnew
  refine ⟨?_, ?_⟩
  · intro found hfound
    rcases List.mem_append.mp hfound with hfound | hfound
    · exact h.paths found hfound
    · rw [List.mem_singleton.mp hfound]
      exact isTransferPath_of_file hparsed
  · rw [List.map_append, List.map_singleton]
    exact List.nodup_append'.mpr ⟨h.distinct, List.nodup_singleton _, by simpa using hnew⟩

theorem listed_of_foldlM {items : List Json} {sofar next : List TransferFile × Nat}
    (h : Listed sofar.1) (hadd : items.foldlM addFile sofar = .ok next) : Listed next.1 :=
  Fold.foldlM_invariant (fun _ _ _ => Listed.add) h hadd

theorem Listed.perm {files files' : List TransferFile} (h : Listed files) (hperm : files.Perm files') :
    Listed files' :=
  ⟨fun item hitem => h.paths item (hperm.mem_iff.mpr hitem), (hperm.map _).nodup_iff.mp h.distinct⟩

theorem listed_of_manifest (h : manifestFromDocument document = .ok manifest) :
    Listed manifest.files := by
  unfold manifestFromDocument at h
  split at h
  · split at h
    · split at h
      · cases h
      · split at h
        · obtain ⟨_, -, h⟩ := Fold.bind_eq_ok.mp h
          obtain ⟨⟨files, total⟩, hfiles, h⟩ := Fold.bind_eq_ok.mp h
          obtain ⟨_, -, h⟩ := Fold.bind_eq_ok.mp h
          obtain ⟨_, -, h⟩ := Fold.bind_eq_ok.mp h
          obtain ⟨_, -, h⟩ := Fold.bind_eq_ok.mp h
          obtain ⟨_, -, h⟩ := Fold.bind_eq_ok.mp h
          cases h
          have hstart : Listed ([] : List TransferFile) := ⟨by simp, List.nodup_nil⟩
          have hlisted : Listed files := listed_of_foldlM hstart hfiles
          exact hlisted.perm (SortBy.sortBy_perm _ files).symm
        · cases h
    · cases h
  · cases h

/-! Paths and their components. -/

theorem components_injective (h : components path = components path') : path = path' := by
  have hchars := congrArg (fun parts => ['/'].intercalate parts) h
  simp only [components, List.intercalate_splitOn] at hchars
  exact String.toList_inj.mp hchars

theorem components_ne_nil : components path ≠ [] := List.splitOn_ne_nil _ _

theorem intercalate_append {sep : List Char} {first rest : List (List Char)} (hfirst : first ≠ [])
    (hrest : rest ≠ []) : sep.intercalate (first ++ rest) =
      sep.intercalate first ++ (sep ++ sep.intercalate rest) := by
  induction first with
  | nil => exact absurd rfl hfirst
  | cons part first ih =>
    cases first with
    | nil =>
      obtain ⟨head, tail, rfl⟩ := List.exists_cons_of_ne_nil hrest
      simp [List.intercalate]
    | cons next first =>
      have hmore := ih (List.cons_ne_nil _ _)
      simp only [List.intercalate, List.cons_append, List.intersperse, List.flatten_cons,
        List.append_assoc] at hmore ⊢
      rw [hmore]

/-- A path stands above another one when the other starts with it and a slash. -/
theorem components_above : (components path <+: components path' ∧ path ≠ path') ↔
    path.toList ++ ['/'] <+: path'.toList := by
  constructor
  · rintro ⟨⟨rest, hrest⟩, hne⟩
    have hmore : rest ≠ [] := by
      rintro rfl
      rw [List.append_nil] at hrest
      exact hne (components_injective hrest)
    have hchars := congrArg (fun parts => ['/'].intercalate parts) hrest
    simp only [intercalate_append components_ne_nil hmore] at hchars
    simp only [components, List.intercalate_splitOn] at hchars
    exact ⟨['/'].intercalate rest, by rw [← hchars, List.append_assoc]⟩
  · rintro ⟨rest, hrest⟩
    have hsplit : components path' = components path ++ rest.splitOn '/' := by
      rw [components, ← hrest, List.append_assoc]
      exact List.splitOn_append_cons_self _ _
    refine ⟨⟨_, hsplit.symm⟩, ?_⟩
    rintro rfl
    have hnil := List.append_right_eq_self.mp hsplit.symm
    exact List.splitOn_ne_nil _ _ hnil

/-- A name that stays where it is put: not empty, no dots that lead elsewhere, and no slash. -/
structure PlainName (name : List Char) : Prop where
  nonempty : name ≠ []
  notHere : name ≠ ['.']
  notAbove : name ≠ ['.', '.']
  noSlash : '/' ∉ name

theorem plainName_of_isComponent {name : List Char} (h : isComponent name = true) :
    PlainName name := by
  cases name with
  | nil => cases h
  | cons c cs =>
    simp only [isComponent, Bool.and_eq_true] at h
    obtain ⟨⟨hhead, htail⟩, -⟩ := h
    have hdot : c ≠ '.' := by
      rintro rfl
      exact absurd hhead (by decide)
    refine ⟨List.cons_ne_nil _ _, ?_, ?_, ?_⟩
    · intro hname
      exact hdot (List.cons.inj hname).1
    · intro hname
      exact hdot (List.cons.inj hname).1
    · intro hslash
      rcases List.mem_cons.mp hslash with rfl | hslash
      · exact absurd hhead (by decide)
      · exact absurd (List.all_eq_true.mp htail _ hslash) (by decide)

theorem plainNames (h : isTransferPath path = true) : ∀ name ∈ components path, PlainName name := by
  simp only [isTransferPath, Bool.and_eq_true] at h
  exact fun name hname => plainName_of_isComponent (List.all_eq_true.mp h.1 name hname)

/-- A path of plain names does not start at the root of the file system. -/
theorem relative_of_plainNames (h : ∀ name ∈ components path, PlainName name) :
    path.toList.head? ≠ some '/' := by
  intro hhead
  obtain ⟨rest, hrest⟩ := List.head?_eq_some_iff.mp hhead
  have hsplit : components path = [] :: rest.splitOn '/' := by
    rw [components, hrest]
    exact List.splitOn_append_cons_self [] rest
  exact (h [] (hsplit ▸ List.mem_cons_self)).nonempty rfl

end ResearchOs.Transfer
