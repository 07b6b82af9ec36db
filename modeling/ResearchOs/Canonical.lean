import ResearchOs.Data.JsonText
import ResearchOs.Data.Sha256
import ResearchOs.Events.Scalars

/-! Canonical JSON and content digests of stored records. -/
namespace ResearchOs

open JsonText (FloatText)

/-- `legacy_canonical_json` -/
def legacyCanonicalJson (F : FloatText) (value : Json) : Option String := JsonText.dumps F value

theorem isHexDigest_hexdigest (algorithm text : String) :
    isHexDigest algorithm (algorithm ++ Sha256.hexdigest text) = true := by
  have htail : ∀ cs : List Char,
      (algorithm ++ String.ofList cs).toList.drop algorithm.length = cs := by
    intro cs
    rw [String.toList_append, String.toList_ofList, ← String.length_toList, List.drop_left]
  have hhead : ∀ cs : List Char,
      (algorithm ++ String.ofList cs).toList.take algorithm.length = algorithm.toList := by
    intro cs
    rw [String.toList_append, String.toList_ofList, ← String.length_toList, List.take_left]
  simp only [isHexDigest, Sha256.hexdigest, htail, hhead, Sha256.hex_length, Bool.and_eq_true,
    beq_self_eq_true, List.all_eq_true]
  refine ⟨⟨trivial, trivial⟩, ?_⟩
  intro c hc
  have hhex := Sha256.mem_hex hc
  simpa [isLowerHex] using hhex

theorem isSha256Digest_hexdigest (text : String) :
    isSha256Digest ("sha256:" ++ Sha256.hexdigest text) = true :=
  isHexDigest_hexdigest "sha256:" text

def digestOfText (text : String) : Sha256Digest :=
  ⟨"sha256:" ++ Sha256.hexdigest text, isSha256Digest_hexdigest text⟩

/-- `legacy_content_digest` -/
def legacyContentDigest (F : FloatText) (value : Json) : Option Sha256Digest :=
  (legacyCanonicalJson F value).map digestOfText

/-- A document in key order that can be written. -/
structure Writable (j : Json) : Prop where
  canonical : j.canonical = true
  dumpable : JsonText.dumpable j = true

theorem Writable.legacyCanonicalJson {F : FloatText} {j : Json} (h : Writable j) :
    ∃ text, legacyCanonicalJson F j = some text ∧ JsonText.loads F text = some j := by
  have htext : ResearchOs.legacyCanonicalJson F j = some (String.ofList (JsonText.render F j)) :=
    if_pos h.dumpable
  exact ⟨_, htext, JsonText.loads_dumps h.canonical htext⟩

/-! Writable values. -/

theorem writable_str (s : String) : Writable (.str s) := ⟨rfl, rfl⟩

theorem writable_bool (b : Bool) : Writable (.bool b) := ⟨rfl, rfl⟩

theorem writable_nat {n : Nat} (h : n ≤ cloudEventsIntegerMax) : Writable (.int n) := by
  refine ⟨rfl, ?_⟩
  have hdigits : (Nat.toDigits 10 n).length ≤ 10 := by
    rw [Nat.length_toDigits_le_iff (by decide) (by decide)]
    exact lt_of_le_of_lt h (by decide)
  have hlimit : (10 : Nat) ≤ JsonText.maxStrDigits := by decide
  simpa [JsonText.dumpable, JsonText.dumpableAtom] using le_trans hdigits hlimit

theorem writable_ofOption {α : Type} {encode : α → Json} (h : ∀ a, Writable (encode a))
    (o : Option α) : Writable (Strict.ofOption encode o) := by
  cases o with
  | none => exact ⟨rfl, rfl⟩
  | some a => exact h a

theorem writable_arr {vs : List Json} (h : ∀ v ∈ vs, Writable v) : Writable (.arr vs) := by
  have hitems : Json.canonicalItems vs = true ∧ JsonText.dumpableItems vs = true := by
    induction vs with
    | nil => exact ⟨rfl, rfl⟩
    | cons v vs ih =>
      obtain ⟨hcanonical, hdumpable⟩ := ih fun w hw => h w (List.mem_cons_of_mem v hw)
      have hv := h v List.mem_cons_self
      simp [Json.canonicalItems, JsonText.dumpableItems, hv.canonical, hv.dumpable, hcanonical,
        hdumpable]
  exact ⟨hitems.1, hitems.2⟩

theorem writable_obj {ms : Json.Members} (hs : Json.Sorted ms) (h : ∀ m ∈ ms, Writable m.2) :
    Writable (.obj ms) := by
  have hmembers : Json.canonicalMembers ms = true ∧ JsonText.dumpableMembers ms = true := by
    clear hs
    induction ms with
    | nil => exact ⟨rfl, rfl⟩
    | cons m ms ih =>
      obtain ⟨key, v⟩ := m
      obtain ⟨hcanonical, hdumpable⟩ := ih fun w hw => h w (List.mem_cons_of_mem _ hw)
      have hv := h (key, v) List.mem_cons_self
      simp [Json.canonicalMembers, JsonText.dumpableMembers, hv.canonical, hv.dumpable, hcanonical,
        hdumpable]
  exact ⟨by simp [Json.canonical, hs, hmembers.1], hmembers.2⟩

end ResearchOs
