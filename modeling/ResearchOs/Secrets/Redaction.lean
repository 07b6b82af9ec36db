import ResearchOs.Data.Json
import ResearchOs.Data.Replace

/-! `redact_object`: known secret values are replaced in the strings of a diagnostic value. -/
namespace ResearchOs.Secrets

def redacted : String := "[redacted]"

/-- `_SECRET_KEYS` -/
def secretKeys : List String :=
  ["password", "token", "secret", "apikey", "api_key", "authorization", "accesstoken",
    "access_token", "privatekey", "private_key"]

def containsText (text secret : String) : Prop := secret.toList <:+: text.toList

instance (text secret : String) : Decidable (containsText text secret) :=
  inferInstanceAs (Decidable (secret.toList <:+: text.toList))

/-- `text.replace(secret, REDACTED)` -/
def replaceSecret (text secret : String) : String :=
  String.ofList (Replace.replace secret.toList redacted.toList text.toList)

def redactText (secrets : List String) (text : String) : String :=
  secrets.foldl replaceSecret text

section

-- `str.casefold` is any function: nothing hangs on which keys it takes for secret ones.
variable (casefold : String → String) (secrets : List String)

mutual

/-- `_redact`; a JSON value is finite, so that no container is one of its own parts. -/
def redact : Json → Json
  | .str text => .str (redactText secrets text)
  | .obj ms => .obj (redactMembers ms)
  | .arr items => .arr (redactItems items)
  | value => value

def redactItems : List Json → List Json
  | [] => []
  | item :: items => redact item :: redactItems items

def redactMembers : Json.Members → Json.Members
  | [] => []
  | (key, item) :: ms =>
    if casefold key ∈ secretKeys then (key, .str redacted) :: redactMembers ms
    else (key, redact item) :: redactMembers ms

end

/-- `redact_object` -/
def redactObject (value : Json) : Json := redact casefold (secrets.filter (· ≠ "")) value

mutual

/-- The object keys that no secret-bearing key stands above. -/
def openKeys : Json → List String
  | .obj ms => openKeysOfMembers ms
  | .arr items => openKeysOfItems items
  | _ => []

def openKeysOfItems : List Json → List String
  | [] => []
  | item :: items => openKeys item ++ openKeysOfItems items

def openKeysOfMembers : Json.Members → List String
  | [] => []
  | (key, item) :: ms =>
    (key :: if casefold key ∈ secretKeys then [] else openKeys item) ++ openKeysOfMembers ms

end

end

mutual

/-- Every string of a value: the object keys and the values, at every depth. -/
def strings : Json → List String
  | .str text => [text]
  | .obj ms => stringsOfMembers ms
  | .arr items => stringsOfItems items
  | _ => []

def stringsOfItems : List Json → List String
  | [] => []
  | item :: items => strings item ++ stringsOfItems items

def stringsOfMembers : Json.Members → List String
  | [] => []
  | (key, item) :: ms => key :: strings item ++ stringsOfMembers ms

end

/-- A secret that the replacement text shares nothing with. -/
structure Separable (secret : String) : Prop where
  nonempty : secret ≠ ""
  noOpening : '[' ∉ secret.toList
  noClosing : ']' ∉ secret.toList
  notRedacted : ¬ containsText "redacted" secret

variable {casefold : String → String} {secrets : List String} {secret text : String} {value : Json}

theorem toList_replaceSecret : (replaceSecret text secret).toList =
    Replace.replace secret.toList ('[' :: ("redacted".toList ++ [']'])) text.toList :=
  String.toList_ofList

theorem Separable.toList_ne_nil (h : Separable secret) : secret.toList ≠ [] :=
  fun hnil => h.nonempty (String.toList_eq_nil_iff.mp hnil)

/-! One text. -/

theorem redactText_cons : redactText (secret :: secrets) text =
    redactText secrets (replaceSecret text secret) := rfl

theorem Separable.gone (h : Separable secret) : ¬ containsText (replaceSecret text secret) secret := by
  rw [containsText, toList_replaceSecret]
  exact Replace.not_infix_replace h.toList_ne_nil h.noOpening h.noClosing h.notRedacted

/-- Replacing another secret does not bring one back. -/
theorem Separable.stays (h : Separable secret) {other : String}
    (hgone : ¬ containsText text secret) : ¬ containsText (replaceSecret text other) secret := by
  rw [containsText, toList_replaceSecret]
  intro hinfix
  rcases Replace.infix_of_replace h.toList_ne_nil h.noOpening h.noClosing hinfix with hbody | hbefore
  · exact h.notRedacted hbody
  · exact hgone hbefore

theorem Separable.stays_redactText (h : Separable secret) (hgone : ¬ containsText text secret) :
    ¬ containsText (redactText secrets text) secret := by
  induction secrets generalizing text with
  | nil => exact hgone
  | cons other secrets ih =>
    rw [redactText_cons]
    exact ih (h.stays hgone)

/-- After all replacements no secret is left, whatever their order. -/
theorem redactText_clean (h : ∀ s ∈ secrets, Separable s) :
    ∀ s ∈ secrets, ¬ containsText (redactText secrets text) s := by
  induction secrets generalizing text with
  | nil => exact fun s hs => absurd hs List.not_mem_nil
  | cons first secrets ih =>
    obtain ⟨hfirst, hrest⟩ := List.forall_mem_cons.mp h
    rw [redactText_cons]
    refine List.forall_mem_cons.mpr ⟨?_, ih hrest⟩
    exact hfirst.stays_redactText hfirst.gone

theorem Separable.not_in_redacted (h : Separable secret) : ¬ containsText redacted secret := by
  intro hinfix
  have hsplit : secret.toList <:+: [] ++ '[' :: ("redacted".toList ++ ']' :: []) := hinfix
  rcases Replace.infix_or_of_separated h.noOpening hsplit with hnil | hinner
  · exact h.toList_ne_nil (List.infix_nil.mp hnil)
  · rcases Replace.infix_or_of_separated h.noClosing hinner with hbody | hnil
    · exact h.notRedacted hbody
    · exact h.toList_ne_nil (List.infix_nil.mp hnil)

/-! Whole values. -/

/-- No string of a list holds a secret. -/
def Clean (secrets texts : List String) : Prop :=
  ∀ text ∈ texts, ∀ secret ∈ secrets, ¬ containsText text secret

instance (secrets texts : List String) : Decidable (Clean secrets texts) :=
  inferInstanceAs (Decidable (∀ text ∈ texts, ∀ secret ∈ secrets, ¬ containsText text secret))

theorem clean_append {first second : List String} :
    Clean secrets (first ++ second) ↔ Clean secrets first ∧ Clean secrets second :=
  List.forall_mem_append

theorem clean_cons {texts : List String} :
    Clean secrets (text :: texts) ↔ Clean secrets [text] ∧ Clean secrets texts := by
  simp [Clean]

theorem clean_nil : Clean secrets [] := fun _ h => absurd h List.not_mem_nil

theorem clean_redactText (h : ∀ s ∈ secrets, Separable s) :
    Clean secrets [redactText secrets text] :=
  fun _ hmem => List.mem_singleton.mp hmem ▸ redactText_clean h

theorem clean_redacted (h : ∀ s ∈ secrets, Separable s) : Clean secrets [redacted] := by
  intro found hmem s hs
  rw [List.mem_singleton.mp hmem]
  exact (h s hs).not_in_redacted

mutual

/-- The strings that stay as they are are the open keys. -/
theorem clean_redact (h : ∀ s ∈ secrets, Separable s) (value : Json) :
    Clean secrets (strings (redact casefold secrets value)) ↔
      Clean secrets (openKeys casefold value) := by
  cases value with
  | str text => simp [redact, strings, openKeys, clean_redactText h, clean_nil]
  | obj ms => simpa [redact, strings, openKeys] using clean_redactMembers h ms
  | arr items => simpa [redact, strings, openKeys] using clean_redactItems h items
  | null => simp [redact, strings, openKeys]
  | bool b => simp [redact, strings, openKeys]
  | int n => simp [redact, strings, openKeys]
  | float x => simp [redact, strings, openKeys]

theorem clean_redactItems (h : ∀ s ∈ secrets, Separable s) (items : List Json) :
    Clean secrets (stringsOfItems (redactItems casefold secrets items)) ↔
      Clean secrets (openKeysOfItems casefold items) := by
  cases items with
  | nil => simp [redactItems, stringsOfItems, openKeysOfItems]
  | cons item items =>
    simp only [redactItems, stringsOfItems, openKeysOfItems, clean_append, clean_redact h item,
      clean_redactItems h items]

theorem clean_redactMembers (h : ∀ s ∈ secrets, Separable s) (ms : Json.Members) :
    Clean secrets (stringsOfMembers (redactMembers casefold secrets ms)) ↔
      Clean secrets (openKeysOfMembers casefold ms) := by
  cases ms with
  | nil => simp [redactMembers, stringsOfMembers, openKeysOfMembers]
  | cons member ms =>
    obtain ⟨key, item⟩ := member
    have hrest := clean_redactMembers h ms
    have hitem := clean_redact h item
    simp only [redactMembers, openKeysOfMembers]
    split_ifs
    · simp only [stringsOfMembers, strings, clean_append, hrest]
      rw [clean_cons, and_iff_left (clean_redacted h)]
    · simp only [stringsOfMembers, clean_append, hrest]
      rw [clean_cons, hitem, ← clean_cons]

end

/-- No string of the redacted value holds a secret exactly when no key that stays open does. -/
theorem redactObject_clean (casefold : String → String) (secrets : List String) (value : Json)
    (h : ∀ s ∈ secrets, Separable s) :
    Clean secrets (strings (redactObject casefold secrets value)) ↔
      Clean secrets (openKeys casefold value) := by
  have hall : secrets.filter (· ≠ "") = secrets :=
    List.filter_eq_self.mpr fun s hs => decide_eq_true (h s hs).nonempty
  rw [redactObject, hall]
  exact clean_redact h value

/-- Two secrets that overlap, and no key that holds one. -/
theorem redactObject_clean_overlapping :
    Clean ["hunter2", "2fast"] (strings (redactObject id ["hunter2", "2fast"]
      (.obj [("note", .str "hunter2fast"), ("token", .str "hunter2")]))) :=
  (redactObject_clean id ["hunter2", "2fast"]
    (.obj [("note", .str "hunter2fast"), ("token", .str "hunter2")])
    (List.forall_mem_cons.mpr ⟨⟨by decide, by decide, by decide, by decide⟩,
      List.forall_mem_cons.mpr ⟨⟨by decide, by decide, by decide, by decide⟩, by simp⟩⟩)).mpr
    (by decide)

/-- A key that holds a secret is copied. -/
theorem redactObject_keeps_key : Separable "hunter2" ∧
    ¬ Clean ["hunter2"] (strings (redactObject id ["hunter2"] (.obj [("hunter2", .int 1)]))) :=
  ⟨⟨by decide, by decide, by decide, by decide⟩, by decide⟩

end ResearchOs.Secrets
