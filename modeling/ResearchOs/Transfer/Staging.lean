import ResearchOs.Transfer.Manifest

/-! Staging the files of a manifest under one directory. -/
namespace ResearchOs.Transfer

inductive Entry where
  | directory
  | file (digest : String) (sizeBytes : Nat)
  deriving DecidableEq, Repr

/-- What stands at each path below a root, by components. -/
abbrev Tree := List (List Char) → Option Entry

def emptyRoot : Tree := fun path => if path = [] then some .directory else none

def missingObject : TransferError :=
  ⟨"authorized object is not available", "transfer-object-missing"⟩

def forbiddenSymlink : TransferError :=
  ⟨"transfer path is a symlink or is not authorized", "transfer-symlink-forbidden"⟩

def integrityMismatch : TransferError :=
  ⟨"transferred bytes do not match the manifest", "transfer-integrity-mismatch"⟩

/-- `os.mkdir`, unless the name is taken. -/
def mkdir (tree : Tree) (path : List (List Char)) : Tree :=
  if tree path = none then Function.update tree path (some .directory) else tree

/-- `os.open` of a directory, never through a link. -/
def openDirectory (tree : Tree) (path : List (List Char)) : Except TransferError Unit :=
  match tree path with
  | none => .error missingObject
  | some (.file _ _) => .error forbiddenSymlink
  | some .directory => .ok ()

/-- `_parent`: down the directories from `here` on. -/
def openParents (create : Bool) : Tree → List (List Char) → List (List Char) →
    Except TransferError Tree
  | tree, _, [] => .ok tree
  | tree, here, part :: parts => do
    let tree := if create then mkdir tree (here ++ [part]) else tree
    openDirectory tree (here ++ [part])
    openParents create tree (here ++ [part]) parts

/-- `_digest` of `_read_tree`; a directory opens, but is no regular file. -/
def readTree (tree : Tree) (item : TransferFile) : Except TransferError String := do
  let tree ← openParents false tree [] item.parts.dropLast
  match tree item.parts with
  | none => .error missingObject
  | some .directory => .error integrityMismatch
  | some (.file digest sizeBytes) => do
    require (sizeBytes = item.sizeBytes) integrityMismatch
    .ok digest

/-- `_existing_file_digest` -/
def existingFileDigest (tree : Tree) (item : TransferFile) :
    Except TransferError (Option String) :=
  match readTree tree item with
  | .ok digest => .ok (some digest)
  | .error error => if error.code = missingObject.code then .ok none else .error error

/-- `_place_file` of a payload that has the digest and the size of the item. -/
def placeFile (tree : Tree) (item : TransferFile) : Except TransferError Tree := do
  let tree ← openParents true tree [] item.parts.dropLast
  require (tree item.parts = none) integrityMismatch
  .ok (Function.update tree item.parts (some (.file item.digest item.sizeBytes)))

/-- One turn of the loop of `_transfer`; `source` is whether the item can be read and placed as
far as the source, the payload and the disk go. -/
def stageFile (source : TransferFile → Except TransferError Unit) (tree : Tree)
    (item : TransferFile) : Except TransferError Tree := do
  match ← existingFileDigest tree item with
  | some existing => do
    require (existing = item.digest) integrityMismatch
    .ok tree
  | none => do
    source item
    placeFile tree item

def stageFiles (source : TransferFile → Except TransferError Unit) (files : List TransferFile)
    (tree : Tree) : Except TransferError Tree :=
  files.foldlM (stageFile source) tree

variable {source : TransferFile → Except TransferError Unit} {tree tree' : Tree}
  {item other : TransferFile} {files done : List TransferFile} {path here parts : List (List Char)}
  {create : Bool} {manifest : TransferManifest} {document : Json}

/-- A path is above another one, and not that one. -/
def Above (path path' : List (List Char)) : Prop := path <+: path' ∧ path ≠ path'

theorem parts_ne_nil : item.parts ≠ [] := components_ne_nil

theorem above_iff_prefix_dropLast : Above path item.parts ↔ path <+: item.parts.dropLast := by
  constructor
  · rintro ⟨⟨rest, hrest⟩, hne⟩
    have hmore : rest ≠ [] := by
      rintro rfl
      rw [List.append_nil] at hrest
      exact hne hrest
    rw [← hrest, List.dropLast_append_of_ne_nil hmore]
    exact List.prefix_append _ _
  · intro h
    refine ⟨h.trans (List.dropLast_prefix _), ?_⟩
    rintro rfl
    have hlength := h.length_le
    rw [List.length_dropLast] at hlength
    have hparts : item.parts ≠ [] := parts_ne_nil
    have hpositive := List.length_pos_iff.mpr hparts
    omega

/-! What a walk down the directories does. -/

theorem openDirectory_eq_ok : openDirectory tree path = .ok () ↔ tree path = some .directory := by
  unfold openDirectory
  split <;> rename_i hfound <;> simp [hfound]

/-- A walk leaves what is there, and every directory it went through. -/
theorem openParents_ok (h : openParents create tree here parts = .ok tree') :
    (∀ p e, tree p = some e → tree' p = some e) ∧
      ∀ p, p ≠ [] → p <+: parts → tree' (here ++ p) = some .directory := by
  induction parts generalizing tree here with
  | nil =>
    cases h
    exact ⟨fun p e he => he, fun p hne hp => absurd (List.prefix_nil.mp hp) hne⟩
  | cons part parts ih =>
    obtain ⟨_, hopen, h⟩ := Fold.bind_eq_ok.mp h
    have hopen := openDirectory_eq_ok.mp hopen
    obtain ⟨hkept, hbelow⟩ := ih h
    refine ⟨fun p e he => hkept p e ?_, fun p hne hp => ?_⟩
    · split_ifs
      · rw [mkdir]
        split_ifs with hfree
        · rw [Function.update_of_ne]
          · exact he
          · rintro rfl
            rw [hfree] at he
            cases he
        · exact he
      · exact he
    · cases p with
      | nil => exact absurd rfl hne
      | cons x p =>
        obtain ⟨rfl, htail⟩ := List.cons_prefix_cons.mp hp
        cases p with
        | nil => exact hkept _ _ hopen
        | cons y p =>
          have hdeeper := hbelow (y :: p) (List.cons_ne_nil _ _) htail
          rwa [List.append_assoc, List.singleton_append] at hdeeper

/-- No file stands in the way of a walk. -/
def Passable (tree : Tree) (here parts : List (List Char)) : Prop :=
  ∀ p, p ≠ [] → p <+: parts → ∀ digest size, tree (here ++ p) ≠ some (.file digest size)

theorem Passable.tail {part : List Char} (h : Passable tree here (part :: parts)) :
    Passable tree (here ++ [part]) parts := by
  intro p hne hp
  rw [List.append_assoc, List.singleton_append]
  exact h (part :: p) (List.cons_ne_nil _ _) (List.cons_prefix_cons.mpr ⟨rfl, hp⟩)

theorem Passable.mkdir (h : Passable tree here parts) : Passable (mkdir tree path) here parts := by
  intro p hne hp digest size
  unfold Transfer.mkdir
  split_ifs
  · by_cases hsame : here ++ p = path
    · rw [hsame, Function.update_self]
      simp
    · rw [Function.update_of_ne hsame]
      exact h p hne hp digest size
  · exact h p hne hp digest size

/-- A walk that creates what is missing arrives, and adds nothing but directories on its way. -/
theorem Passable.openParents_create (h : Passable tree here parts) :
    ∃ tree', openParents true tree here parts = .ok tree' ∧ ∀ p, tree' p ≠ tree p →
      tree p = none ∧ tree' p = some .directory ∧ ∃ q, q ≠ [] ∧ q <+: parts ∧ p = here ++ q := by
  induction parts generalizing tree here with
  | nil => exact ⟨tree, rfl, fun p hp => absurd rfl hp⟩
  | cons part parts ih =>
    have hmade : Transfer.mkdir tree (here ++ [part]) (here ++ [part]) = some .directory := by
      unfold Transfer.mkdir
      split_ifs with hfree
      · exact Function.update_self ..
      · cases hfound : tree (here ++ [part]) with
        | none => exact absurd hfound hfree
        | some entry =>
          cases entry with
          | directory => rfl
          | file digest size =>
            have hhead : [part] <+: part :: parts := List.cons_prefix_cons.mpr ⟨rfl, List.nil_prefix⟩
            exact absurd hfound (h [part] (List.cons_ne_nil _ _) hhead digest size)
    have hpassable : Passable (Transfer.mkdir tree (here ++ [part])) (here ++ [part]) parts :=
      h.tail.mkdir
    obtain ⟨tree', hopen, hadds⟩ := ih hpassable
    refine ⟨tree', ?_, fun p hp => ?_⟩
    · simp only [openParents, if_true, openDirectory_eq_ok.mpr hmade, hopen, bind, Except.bind]
    · by_cases hlater : tree' p = Transfer.mkdir tree (here ++ [part]) p
      · have hchanged : Transfer.mkdir tree (here ++ [part]) p ≠ tree p := hlater ▸ hp
        have hplace : p = here ++ [part] := by
          by_contra hother
          apply hchanged
          unfold Transfer.mkdir
          split_ifs
          · exact Function.update_of_ne hother ..
          · rfl
        subst hplace
        refine ⟨?_, hlater.trans hmade, [part], List.cons_ne_nil _ _,
          List.cons_prefix_cons.mpr ⟨rfl, List.nil_prefix⟩, rfl⟩
        by_contra htaken
        exact hchanged (by rw [Transfer.mkdir, if_neg htaken])
      · obtain ⟨hfree, hdirectory, q, hne, hq, rfl⟩ := hadds p hlater
        have hbefore : tree (here ++ [part] ++ q) = none := by
          unfold Transfer.mkdir at hfree
          split_ifs at hfree with htaken
          · by_cases hsame : here ++ [part] ++ q = here ++ [part]
            · exact absurd (List.append_right_eq_self.mp hsame) hne
            · rwa [Function.update_of_ne hsame] at hfree
          · exact hfree
        refine ⟨hbefore, hdirectory, part :: q, List.cons_ne_nil _ _,
          List.cons_prefix_cons.mpr ⟨rfl, hq⟩, ?_⟩
        rw [List.append_assoc, List.singleton_append]

/-- A walk that creates nothing arrives, or finds a directory missing. -/
theorem Passable.openParents_read (h : Passable tree here parts) :
    openParents false tree here parts = .ok tree ∨
      openParents false tree here parts = .error missingObject := by
  induction parts generalizing here with
  | nil => exact .inl rfl
  | cons part parts ih =>
    have hhead : [part] <+: part :: parts := List.cons_prefix_cons.mpr ⟨rfl, List.nil_prefix⟩
    cases hfound : tree (here ++ [part]) with
    | none => exact .inr (by simp [openParents, openDirectory, hfound, bind, Except.bind])
    | some entry =>
      cases entry with
      | directory =>
        rcases ih h.tail with hopen | hopen
        · exact .inl (by simp [openParents, openDirectory, hfound, hopen, bind, Except.bind])
        · exact .inr (by simp [openParents, openDirectory, hfound, hopen, bind, Except.bind])
      | file digest size => exact absurd hfound (h [part] (List.cons_ne_nil _ _) hhead digest size)

/-! What one staged file leaves. -/

/-- The file stands at its path, below directories. -/
structure Placed (tree : Tree) (item : TransferFile) : Prop where
  file : tree item.parts = some (.file item.digest item.sizeBytes)
  parents : ∀ path, path ≠ [] → Above path item.parts → tree path = some .directory

theorem Placed.mono (h : Placed tree item) (hkept : ∀ p e, tree p = some e → tree' p = some e) :
    Placed tree' item :=
  ⟨hkept _ _ h.file, fun path hne hpath => hkept _ _ (h.parents path hne hpath)⟩

theorem openParents_false_eq (h : openParents false tree here parts = .ok tree') : tree' = tree := by
  induction parts generalizing here with
  | nil =>
    cases h
    rfl
  | cons part parts ih =>
    obtain ⟨_, -, h⟩ := Fold.bind_eq_ok.mp h
    exact ih h

theorem existingFileDigest_some {digest : String}
    (h : existingFileDigest tree item = .ok (some digest)) :
    tree item.parts = some (.file digest item.sizeBytes) ∧
      ∀ path, path ≠ [] → Above path item.parts → tree path = some .directory := by
  unfold existingFileDigest at h
  split at h
  · rename_i found hread
    cases h
    obtain ⟨opened, hopen, hentry⟩ := Fold.bind_eq_ok.mp hread
    obtain rfl := openParents_false_eq hopen
    obtain ⟨-, hparents⟩ := openParents_ok hopen
    split at hentry
    · cases hentry
    · cases hentry
    · rename_i size hfound
      obtain ⟨_, hsize, hentry⟩ := Fold.bind_eq_ok.mp hentry
      cases hentry
      rw [← require_eq_ok.mp hsize]
      exact ⟨hfound, fun path hne hpath => hparents path hne (above_iff_prefix_dropLast.mp hpath)⟩
  · split_ifs at h
    cases h

theorem stageFile_ok (h : stageFile source tree item = .ok tree') :
    Placed tree' item ∧ ∀ p e, tree p = some e → tree' p = some e := by
  obtain ⟨existing, hexisting, h⟩ := Fold.bind_eq_ok.mp h
  cases existing with
  | some digest =>
    obtain ⟨_, hsame, h⟩ := Fold.bind_eq_ok.mp h
    cases h
    obtain ⟨hfile, hparents⟩ := existingFileDigest_some hexisting
    rw [require_eq_ok.mp hsame] at hfile
    exact ⟨⟨hfile, hparents⟩, fun p e he => he⟩
  | none =>
    obtain ⟨_, -, h⟩ := Fold.bind_eq_ok.mp h
    obtain ⟨opened, hopen, h⟩ := Fold.bind_eq_ok.mp h
    obtain ⟨_, hfree, h⟩ := Fold.bind_eq_ok.mp h
    cases h
    have hfree := require_eq_ok.mp hfree
    obtain ⟨hkept, hparents⟩ := openParents_ok hopen
    have hother : ∀ p e, opened p = some e → Function.update opened item.parts
        (some (.file item.digest item.sizeBytes)) p = some e := by
      intro p e he
      rw [Function.update_of_ne]
      · exact he
      · rintro rfl
        rw [hfree] at he
        cases he
    refine ⟨⟨Function.update_self .., fun path hne hpath => ?_⟩, fun p e he => ?_⟩
    · exact hother _ _ (hparents path hne (above_iff_prefix_dropLast.mp hpath))
    · exact hother _ _ (hkept p e he)

/-- After a staging every file stands at its path. -/
theorem stageFiles_ok (h : stageFiles source files tree = .ok tree') :
    (∀ item ∈ files, Placed tree' item) ∧ ∀ p e, tree p = some e → tree' p = some e := by
  induction files generalizing tree with
  | nil =>
    cases h
    exact ⟨fun item hitem => absurd hitem List.not_mem_nil, fun p e he => he⟩
  | cons item files ih =>
    obtain ⟨middle, hstage, hrest⟩ := Fold.foldlM_cons_eq_ok.mp h
    obtain ⟨hplaced, hkept⟩ := stageFile_ok hstage
    obtain ⟨hfiles, hlater⟩ := ih hrest
    refine ⟨List.forall_mem_cons.mpr ⟨hplaced.mono hlater, hfiles⟩, fun p e he => ?_⟩
    exact hlater p e (hkept p e he)

/-! Files that are not in one another's way. -/

/-- No file is where another one needs a directory. -/
def Clear (files : List TransferFile) : Prop :=
  ∀ item ∈ files, ∀ other ∈ files, ¬ Above item.parts other.parts

/-- What stands below the root: the files that are done, and the directories above them. -/
structure Staged (tree : Tree) (done : List TransferFile) : Prop where
  root : tree [] = some .directory
  only : ∀ path, path ≠ [] → ∀ entry, tree path = some entry → ∃ item ∈ done,
    path = item.parts ∧ entry = .file item.digest item.sizeBytes ∨
      Above path item.parts ∧ entry = .directory

theorem staged_emptyRoot : Staged emptyRoot [] :=
  ⟨rfl, fun path hne entry he => by simp [emptyRoot, hne] at he⟩

theorem Staged.passable (h : Staged tree done) (hclear : Clear files) (hdone : ∀ d ∈ done, d ∈ files)
    (hitem : item ∈ files) : Passable tree [] item.parts.dropLast := by
  intro p hne hp digest size hfile
  obtain ⟨found, hfound, ⟨rfl, -⟩ | ⟨-, hentry⟩⟩ := h.only p hne _ hfile
  · exact hclear found (hdone found hfound) item hitem (above_iff_prefix_dropLast.mpr hp)
  · cases hentry

theorem Staged.free (h : Staged tree done) (hclear : Clear files) (hdone : ∀ d ∈ done, d ∈ files)
    (hitem : item ∈ files) (hnew : item.relativePath ∉ done.map TransferFile.relativePath) :
    tree item.parts = none := by
  rw [Option.eq_none_iff_forall_ne_some]
  intro entry hentry
  obtain ⟨found, hfound, ⟨hsame, -⟩ | ⟨habove, -⟩⟩ := h.only _ parts_ne_nil _ hentry
  · exact hnew (List.mem_map.mpr ⟨found, hfound, (components_injective hsame).symm⟩)
  · exact hclear item hitem found (hdone found hfound) habove

/-- A file that is not in the way of the others is staged. -/
theorem Staged.stageFile (h : Staged tree done) (hclear : Clear files) (hdone : ∀ d ∈ done, d ∈ files)
    (hitem : item ∈ files) (hnew : item.relativePath ∉ done.map TransferFile.relativePath)
    (hsource : source item = .ok ()) :
    ∃ tree', stageFile source tree item = .ok tree' ∧ Staged tree' (done ++ [item]) := by
  have hpassable := h.passable hclear hdone hitem
  have hfree := h.free hclear hdone hitem hnew
  have hexisting : existingFileDigest tree item = .ok none := by
    rcases hpassable.openParents_read with hopen | hopen
    · simp [existingFileDigest, readTree, hopen, hfree, bind, Except.bind]
    · simp [existingFileDigest, readTree, hopen, bind, Except.bind]
  obtain ⟨opened, hopen, hadds⟩ := hpassable.openParents_create
  have hplace : opened item.parts = none := by
    by_contra htaken
    obtain ⟨-, -, q, -, hq, hsame⟩ := hadds item.parts (hfree ▸ htaken)
    rw [List.nil_append] at hsame
    exact (above_iff_prefix_dropLast.mpr hq).2 hsame.symm
  refine ⟨Function.update opened item.parts (some (.file item.digest item.sizeBytes)), ?_, ?_, ?_⟩
  · simp only [Transfer.stageFile, hexisting, hsource, placeFile, hopen, require_eq_ok.mpr hplace,
      bind, Except.bind]
  · rw [Function.update_of_ne parts_ne_nil.symm]
    by_cases hroot : opened [] = tree []
    · rw [hroot, h.root]
    · exact (hadds [] hroot).2.1
  · intro path hne entry he
    by_cases hsame : path = item.parts
    · subst hsame
      rw [Function.update_self] at he
      cases he
      exact ⟨item, by simp, .inl ⟨rfl, rfl⟩⟩
    · rw [Function.update_of_ne hsame] at he
      by_cases hkept : opened path = tree path
      · obtain ⟨found, hfound, hcase⟩ := h.only path hne entry (hkept ▸ he)
        exact ⟨found, List.mem_append_left _ hfound, hcase⟩
      · obtain ⟨-, hdirectory, q, -, hq, hpath⟩ := hadds path hkept
        rw [hdirectory] at he
        cases he
        rw [List.nil_append] at hpath
        subst hpath
        exact ⟨item, by simp, .inr ⟨above_iff_prefix_dropLast.mpr hq, rfl⟩⟩

/-- Files that are not in one another's way are all staged. -/
theorem Staged.stageFiles {rest : List TransferFile} (h : Staged tree done) (hclear : Clear files)
    (hfiles : done ++ rest = files) (hdistinct : (files.map TransferFile.relativePath).Nodup)
    (hsource : ∀ item ∈ files, source item = .ok ()) :
    ∃ tree', stageFiles source rest tree = .ok tree' ∧ Staged tree' files := by
  induction rest generalizing done tree with
  | nil =>
    rw [List.append_nil] at hfiles
    exact ⟨tree, rfl, hfiles ▸ h⟩
  | cons item rest ih =>
    have hitem : item ∈ files := hfiles ▸ List.mem_append_right _ List.mem_cons_self
    have hdone : ∀ d ∈ done, d ∈ files := fun d hd => hfiles ▸ List.mem_append_left _ hd
    have hnew : item.relativePath ∉ done.map TransferFile.relativePath := by
      rw [← hfiles, List.map_append, List.map_cons] at hdistinct
      intro hmem
      exact (List.nodup_append'.mp hdistinct).2.2 hmem List.mem_cons_self
    obtain ⟨middle, hstage, hmiddle⟩ := h.stageFile hclear hdone hitem hnew (hsource item hitem)
    obtain ⟨tree', hrest, hfinal⟩ := ih hmiddle (by rw [List.append_assoc]; exact hfiles)
    exact ⟨tree', Fold.foldlM_cons_eq_ok.mpr ⟨middle, hstage, hrest⟩, hfinal⟩

/-- The manifest is a file tree under one directory. -/
structure Realizable (manifest : TransferManifest) : Prop where
  relative : ∀ item ∈ manifest.files, item.relativePath.toList.head? ≠ some '/'
  inside : ∀ item ∈ manifest.files, ∀ name ∈ item.parts, PlainName name
  distinct : (manifest.files.map TransferFile.relativePath).Nodup
  clear : Clear manifest.files
  staged : ∀ source, (∀ item ∈ manifest.files, source item = .ok ()) → ∃ tree,
    stageFiles source manifest.files emptyRoot = .ok tree ∧ Staged tree manifest.files ∧
      ∀ item ∈ manifest.files, Placed tree item

theorem clear_of_stageFiles (h : stageFiles source files emptyRoot = .ok tree) : Clear files := by
  intro item hitem other hother habove
  obtain ⟨hplaced, -⟩ := stageFiles_ok h
  have hdirectory := (hplaced other hother).parents item.parts parts_ne_nil habove
  rw [(hplaced item hitem).file] at hdirectory
  cases hdirectory

/-- An accepted manifest can be realized exactly when no path in it goes through another one, which
is also exactly when a source that has every object can be staged. -/
theorem manifest_realizable (document : Json) (manifest : TransferManifest)
    (h : manifestFromDocument document = .ok manifest) :
    (Realizable manifest ↔ ∀ item ∈ manifest.files, ∀ other ∈ manifest.files,
      ¬ item.relativePath.toList ++ ['/'] <+: other.relativePath.toList) ∧
    (Realizable manifest ↔ ∃ tree, stageFiles (fun _ => .ok ()) manifest.files emptyRoot =
      .ok tree) := by
  have hlisted := listed_of_manifest h
  have hplain := fun item hitem => plainNames (hlisted.paths item hitem)
  have hrealizable : Clear manifest.files → Realizable manifest := by
    intro hclear
    refine ⟨fun item hitem => relative_of_plainNames (hplain item hitem), hplain, hlisted.distinct,
      hclear, fun source hsource => ?_⟩
    obtain ⟨tree, hstage, hstaged⟩ :=
      staged_emptyRoot.stageFiles hclear (List.nil_append _) hlisted.distinct hsource
    exact ⟨tree, hstage, hstaged, (stageFiles_ok hstage).1⟩
  have hclear : Clear manifest.files ↔ ∀ item ∈ manifest.files, ∀ other ∈ manifest.files,
      ¬ item.relativePath.toList ++ ['/'] <+: other.relativePath.toList := by
    refine forall₂_congr fun item _ => forall₂_congr fun other _ => not_congr ?_
    rw [← components_above, Above, TransferFile.parts, TransferFile.parts]
    exact and_congr_right fun _ => not_congr ⟨components_injective, congrArg components⟩
  refine ⟨⟨fun h => hclear.mp h.clear, fun h => hrealizable (hclear.mpr h)⟩, fun h => ?_, ?_⟩
  · obtain ⟨tree, hstage, -⟩ := h.staged (fun _ => .ok ()) fun _ _ => rfl
    exact ⟨tree, hstage⟩
  · rintro ⟨tree, hstage⟩
    exact hrealizable (clear_of_stageFiles hstage)

def trialFile (path : String) : Json :=
  .obj [("digest", .str ("sha256:" ++ String.ofList (List.replicate 64 '0'))), ("path", .str path),
    ("sizeBytes", .int 1)]

def trialManifest (paths : List String) : Json :=
  .obj [("attemptId", .str "a"), ("direction", .str "input"), ("files", .arr (paths.map trialFile)),
    ("grantId", .str "g"), ("runId", .str "r"), ("taskId", .str "t")]

def trialItem (path : String) : TransferFile :=
  ⟨path, "sha256:" ++ String.ofList (List.replicate 64 '0'), 1⟩

theorem manifest_realizable_siblings : ∃ manifest,
    manifestFromDocument (trialManifest ["data/b", "data/a"]) = .ok manifest ∧ Realizable manifest :=
  ⟨⟨"g", "t", "r", "a", .input, [trialItem "data/a", trialItem "data/b"]⟩, by decide +kernel,
    (manifest_realizable (trialManifest ["data/b", "data/a"])
      ⟨"g", "t", "r", "a", .input, [trialItem "data/a", trialItem "data/b"]⟩
      (by decide +kernel)).1.mpr (by decide)⟩

/-- A file and a file below it are accepted together, and the second one is not staged. -/
theorem manifest_with_file_above : ∃ manifest,
    manifestFromDocument (trialManifest ["data", "data/a"]) = .ok manifest ∧
      ¬ Realizable manifest ∧
      (stageFiles (fun _ => .ok ()) manifest.files emptyRoot).map (fun _ => ()) =
        .error forbiddenSymlink := by
  refine ⟨⟨"g", "t", "r", "a", .input, [trialItem "data", trialItem "data/a"]⟩, by decide +kernel,
    fun h => ?_, by decide +kernel⟩
  refine h.clear (trialItem "data") (by simp) (trialItem "data/a") (by simp) ?_
  exact components_above.mpr (by decide) |>.imp_right fun hne hsame => hne (components_injective hsame)

end ResearchOs.Transfer
