import ResearchOs.Data.Json

/-! Strict decoding of JSON documents: closed objects, required and optional members,
no coercion between types. -/

/-- Values that pass a check. -/
abbrev Checked {α : Type} (p : α → Bool) := {a : α // p a = true}

namespace Strict

variable {α β : Type}

def checked (p : α → Bool) (a : α) : Option (Checked p) :=
  if h : p a = true then some ⟨a, h⟩ else none

def text (p : String → Bool) : Json → Option (Checked p)
  | .str s => checked p s
  | _ => none

def boolean : Json → Option Bool
  | .bool b => some b
  | _ => none

/-- A JSON integer in range; `true` and `1.0` are not integers. -/
def natural (p : Nat → Bool) : Json → Option (Checked p)
  | .int (.ofNat n) => checked p n
  | _ => none

/-- A member of an enumeration given by its texts. -/
def enumeration (ofText : String → Option α) : Json → Option α
  | .str s => ofText s
  | _ => none

def literal (s : String) : Json → Option Unit
  | .str t => if s = t then some () else none
  | _ => none

def nullable (decode : Json → Option α) : Json → Option (Option α)
  | .null => some none
  | j => (decode j).map some

def array (decode : Json → Option α) : Json → Option (List α)
  | .arr items => items.mapM decode
  | _ => none

def members : Json → Option Json.Members
  | .obj ms => some ms
  | _ => none

/-- The members of an object that has no others than the listed ones. -/
def closed (keys : List String) : Json → Option Json.Members
  | .obj ms => if ms.all (fun p => keys.contains p.1) then some ms else none
  | _ => none

def required (ms : Json.Members) (key : String) (decode : Json → Option α) : Option α :=
  (ms.lookup key).bind decode

def defaulted (ms : Json.Members) (key : String) (default : α) (decode : Json → Option α) :
    Option α :=
  match ms.lookup key with
  | none => some default
  | some j => decode j

/-- An optional member that may be absent but not null. -/
def omittable (ms : Json.Members) (key : String) (decode : Json → Option α) :
    Option (Option α) :=
  match ms.lookup key with
  | none => some none
  | some j => (decode j).map some

/-! Encoding. -/

def ofOption (encode : α → Json) : Option α → Json
  | none => .null
  | some a => encode a

@[simp] theorem checked_val {p : α → Bool} (a : Checked p) : checked p a.val = some a := by
  simp [checked, a.property]

theorem val_of_checked {p : α → Bool} {a : α} {b : Checked p} (h : checked p a = some b) :
    b.val = a := by
  unfold checked at h
  split at h
  · cases h; rfl
  · cases h

@[simp] theorem text_str {p : String → Bool} (a : Checked p) : text p (.str a.val) = some a :=
  checked_val a

@[simp] theorem natural_int {p : Nat → Bool} (a : Checked p) :
    natural p (.int a.val) = some a :=
  checked_val a

@[simp] theorem boolean_bool (b : Bool) : boolean (.bool b) = some b := rfl

theorem closed_obj (keys : List String) (ms : Json.Members) :
    closed keys (.obj ms) = if ms.all (fun p => keys.contains p.1) then some ms else none := rfl

theorem closed_some {keys : List String} {ms ms' : Json.Members}
    (h : closed keys (.obj ms) = some ms') : ms = ms' := by
  rw [closed_obj] at h
  split_ifs at h
  exact Option.some.inj h

theorem required_text {p : String → Bool} {ms : Json.Members} {key : String} {a : Checked p}
    (h : required ms key (text p) = some a) : ms.lookup key = some (.str a.val) := by
  obtain ⟨j, hj, hdecode⟩ := Option.bind_eq_some_iff.mp h
  cases j with
  | str s =>
    rw [val_of_checked hdecode]
    exact hj
  | _ => cases hdecode

theorem strings_of_mapM {p : String → Bool} {items : List Json} {as : List (Checked p)}
    (h : items.mapM (text p) = some as) : items = as.map fun a => .str a.val := by
  induction items generalizing as with
  | nil =>
    cases h
    rfl
  | cons item items ih =>
    simp only [List.mapM_cons, Option.bind_eq_bind, Option.bind_eq_some_iff] at h
    obtain ⟨a, ha, rest, hrest, h⟩ := h
    cases h
    cases item with
    | str text => rw [List.map_cons, ← val_of_checked ha, ← ih hrest]
    | _ => cases ha

theorem required_natural {p : Nat → Bool} {ms : Json.Members} {key : String} {a : Checked p}
    (h : required ms key (natural p) = some a) : ms.lookup key = some (.int a.val) := by
  obtain ⟨j, hj, hdecode⟩ := Option.bind_eq_some_iff.mp h
  unfold natural at hdecode
  split at hdecode
  · rw [val_of_checked hdecode]
    exact hj
  · cases hdecode

/-- A nullable member reads back what was written, when its values never encode to null. -/
theorem nullable_ofOption {decode : Json → Option α} {encode : α → Json} (a : Option α)
    (hnull : ∀ x, encode x ≠ .null) (h : ∀ x, a = some x → decode (encode x) = some x) :
    nullable decode (ofOption encode a) = some a := by
  cases a with
  | none => rfl
  | some x =>
    simp only [ofOption]
    cases he : encode x with
    | null => exact (hnull x he).elim
    | _ => simp [nullable, ← he, h x rfl]

@[simp] theorem nullable_text {p : String → Bool} (a : Option (Checked p)) :
    nullable (text p) (ofOption (fun x => .str x.val) a) = some a :=
  nullable_ofOption a (fun _ h => by cases h) (fun _ _ => text_str _)

@[simp] theorem nullable_natural {p : Nat → Bool} (a : Option (Checked p)) :
    nullable (natural p) (ofOption (fun x => .int x.val) a) = some a :=
  nullable_ofOption a (fun _ h => by cases h) (fun _ _ => natural_int _)

theorem array_map {decode : Json → Option α} {encode : α → Json} (as : List α)
    (h : ∀ a ∈ as, decode (encode a) = some a) :
    array decode (.arr (as.map encode)) = some as := by
  simp only [array]
  induction as with
  | nil => rfl
  | cons a as ih =>
    simp [List.mapM_cons, h a List.mem_cons_self,
      ih fun b hb => h b (List.mem_cons_of_mem _ hb)]

theorem array_map_none {decode : Json → Option α} {encode : α → Json} {as : List α} {a : α}
    (ha : a ∈ as) (h : decode (encode a) = none) :
    array decode (.arr (as.map encode)) = none := by
  simp only [array]
  induction as with
  | nil => simp at ha
  | cons b as ih =>
    rcases List.mem_cons.mp ha with rfl | ha
    · simp [List.mapM_cons, h]
    · cases hb : decode (encode b) <;> simp [List.mapM_cons, hb, ih ha]

/-! Decoding one member at a time. -/

section

variable {ms : Json.Members} {key : String} {j : Json} {a default : α} {decode : Json → Option α}

theorem required_bind {k : α → Option β} (hl : ms.lookup key = some j) (hd : decode j = some a) :
    required ms key decode >>= k = k a := by
  simp [required, hl, hd]

theorem required_bind_none {k : α → Option β} (hl : ms.lookup key = some j)
    (hd : decode j = none) : required ms key decode >>= k = none := by
  simp [required, hl, hd]

theorem defaulted_bind {k : α → Option β} (hl : ms.lookup key = some j) (hd : decode j = some a) :
    defaulted ms key default decode >>= k = k a := by
  simp [defaulted, hl, hd]

theorem defaulted_bind_eq {k : α → Option β} (hl : ms.lookup key = some j) :
    defaulted ms key default decode >>= k = decode j >>= k := by
  simp [defaulted, hl]

theorem omittable_bind {k : Option α → Option β} {o : Option α} (encode : α → Json)
    (hl : ms.lookup key = o.map encode) (hd : ∀ x ∈ o, decode (encode x) = some x) :
    omittable ms key decode >>= k = k o := by
  cases o with
  | none => simp [omittable, hl]
  | some x => simp [omittable, hl, hd x rfl]

theorem closed_bind {keys : List String} {k : Json.Members → Option β}
    (h : ms.all (fun p => keys.contains p.1) = true) : closed keys (.obj ms) >>= k = k ms := by
  have hclosed : closed keys (.obj ms) = some ms := if_pos h
  rw [hclosed]
  rfl

end

end Strict
