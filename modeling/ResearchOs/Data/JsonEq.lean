import Mathlib.Data.Rat.Defs
import ResearchOs.Data.Json
import Mathlib.Data.List.Nodup

/-! Equality of JSON values, decided along their structure. -/
namespace Json

mutual

def decEq : (a b : Json) → Decidable (a = b)
  | .null, .null => isTrue rfl
  | .bool a, .bool b => decidable_of_iff (a = b) (by simp)
  | .int a, .int b => decidable_of_iff (a = b) (by simp)
  | .float a, .float b => decidable_of_iff (a = b) (by simp)
  | .str a, .str b => decidable_of_iff (a = b) (by simp)
  | .arr as, .arr bs =>
    match decEqItems as bs with
    | isTrue h => isTrue (congrArg Json.arr h)
    | isFalse h => isFalse fun heq => h (Json.arr.inj heq)
  | .obj as, .obj bs =>
    match decEqMembers as bs with
    | isTrue h => isTrue (congrArg Json.obj h)
    | isFalse h => isFalse fun heq => h (Json.obj.inj heq)
  | .null, .bool _ | .null, .int _ | .null, .float _ | .null, .str _ | .null, .arr _
  | .null, .obj _ | .bool _, .null | .bool _, .int _ | .bool _, .float _ | .bool _, .str _
  | .bool _, .arr _ | .bool _, .obj _ | .int _, .null | .int _, .bool _ | .int _, .float _
  | .int _, .str _ | .int _, .arr _ | .int _, .obj _ | .float _, .null | .float _, .bool _
  | .float _, .int _ | .float _, .str _ | .float _, .arr _ | .float _, .obj _ | .str _, .null
  | .str _, .bool _ | .str _, .int _ | .str _, .float _ | .str _, .arr _ | .str _, .obj _
  | .arr _, .null | .arr _, .bool _ | .arr _, .int _ | .arr _, .float _ | .arr _, .str _
  | .arr _, .obj _ | .obj _, .null | .obj _, .bool _ | .obj _, .int _ | .obj _, .float _
  | .obj _, .str _ | .obj _, .arr _ => isFalse (by simp)

def decEqItems : (as bs : List Json) → Decidable (as = bs)
  | [], [] => isTrue rfl
  | [], _ :: _ => isFalse (by simp)
  | _ :: _, [] => isFalse (by simp)
  | a :: as, b :: bs =>
    match decEq a b, decEqItems as bs with
    | isTrue ha, isTrue has => isTrue (by rw [ha, has])
    | isFalse ha, _ => isFalse fun heq => ha (List.cons.inj heq).1
    | _, isFalse has => isFalse fun heq => has (List.cons.inj heq).2

def decEqMembers : (as bs : Members) → Decidable (as = bs)
  | [], [] => isTrue rfl
  | [], _ :: _ => isFalse (by simp)
  | _ :: _, [] => isFalse (by simp)
  | (k, a) :: as, (l, b) :: bs =>
    match decEq a b, decEqMembers as bs with
    | isTrue ha, isTrue has => decidable_of_iff (k = l) (by simp [ha, has])
    | isFalse ha, _ => isFalse fun heq => ha (Prod.ext_iff.mp (List.cons.inj heq).1).2
    | _, isFalse has => isFalse fun heq => has (List.cons.inj heq).2

end

instance : DecidableEq Json := decEq

end Json

/-! Equality of JSON values in the host language, where numbers and booleans compare by value. -/

/-- The number that finite bits stand for. -/
def Binary64.value (x : Binary64) : ℚ :=
  let exponent := x.toNat / 2 ^ 52 % 2 ^ 11
  let fraction := x.toNat % 2 ^ 52
  let mantissa := if exponent = 0 then fraction else fraction + 2 ^ 52
  let magnitude : Int := ((mantissa * 2 ^ (max exponent 1) : Nat) : Int)
  mkRat (if x.toNat / 2 ^ 63 = 1 then -magnitude else magnitude) (2 ^ 1075)

namespace Json

/-- The types that the host language tells apart. -/
inductive ValueType where
  | null
  | bool
  | int
  | float
  | str
  | list
  | dict
  deriving DecidableEq, Repr

def valueType : Json → ValueType
  | null => .null
  | bool _ => .bool
  | int _ => .int
  | float _ => .float
  | str _ => .str
  | arr _ => .list
  | obj _ => .dict

/-- What a number or a boolean compares by. -/
def number : Json → Option ℚ
  | bool b => some (if b then 1 else 0)
  | int n => some n
  | float x => some x.value
  | _ => none

mutual

/-- `==` -/
def hostEq : Json → Json → Bool
  | arr items, other =>
    match other with
    | arr others => hostEqItems items others
    | _ => false
  | obj members, other =>
    match other with
    | obj others => decide (members.length = others.length) && hostEqMembers members others
    | _ => false
  | str s, other => other = .str s
  | null, other => other = .null
  | bool b, other => other.number = some (if b then 1 else 0)
  | int n, other => other.number = some (n : ℚ)
  | float x, other => other.number = some x.value

def hostEqItems : List Json → List Json → Bool
  | [], [] => true
  | item :: items, other :: others => hostEq item other && hostEqItems items others
  | _, _ => false

def hostEqMembers : Members → Members → Bool
  | [], _ => true
  | (key, value) :: members, others =>
    (match others.lookup key with
      | some other => hostEq value other
      | none => false) && hostEqMembers members others

end

end Json

/-! Induction on the parts of a JSON value, and objects that have no name twice. -/
namespace Json

mutual

theorem induct_value {P : Json → Prop} (hnull : P .null) (hbool : ∀ b, P (.bool b))
    (hint : ∀ n, P (.int n)) (hfloat : ∀ x, P (.float x)) (hstr : ∀ s, P (.str s))
    (harr : ∀ items : List Json, (∀ item ∈ items, P item) → P (.arr items))
    (hobj : ∀ members : Members, (∀ member ∈ members, P member.2) → P (.obj members)) :
    ∀ j, P j
  | .null => hnull
  | .bool b => hbool b
  | .int n => hint n
  | .float x => hfloat x
  | .str s => hstr s
  | .arr items => harr items (induct_items hnull hbool hint hfloat hstr harr hobj items)
  | .obj members => hobj members (induct_members hnull hbool hint hfloat hstr harr hobj members)

theorem induct_items {P : Json → Prop} (hnull : P .null) (hbool : ∀ b, P (.bool b))
    (hint : ∀ n, P (.int n)) (hfloat : ∀ x, P (.float x)) (hstr : ∀ s, P (.str s))
    (harr : ∀ items : List Json, (∀ item ∈ items, P item) → P (.arr items))
    (hobj : ∀ members : Members, (∀ member ∈ members, P member.2) → P (.obj members)) :
    ∀ items : List Json, ∀ item ∈ items, P item
  | [] => by simp
  | item :: items => List.forall_mem_cons.mpr
      ⟨induct_value hnull hbool hint hfloat hstr harr hobj item,
        induct_items hnull hbool hint hfloat hstr harr hobj items⟩

theorem induct_members {P : Json → Prop} (hnull : P .null) (hbool : ∀ b, P (.bool b))
    (hint : ∀ n, P (.int n)) (hfloat : ∀ x, P (.float x)) (hstr : ∀ s, P (.str s))
    (harr : ∀ items : List Json, (∀ item ∈ items, P item) → P (.arr items))
    (hobj : ∀ members : Members, (∀ member ∈ members, P member.2) → P (.obj members)) :
    ∀ members : Members, ∀ member ∈ members, P member.2
  | [] => by simp
  | (_, value) :: members => List.forall_mem_cons.mpr
      ⟨induct_value hnull hbool hint hfloat hstr harr hobj value,
        induct_members hnull hbool hint hfloat hstr harr hobj members⟩

end

/-- The rule for a property of values that the parts of lists and objects hand on. -/
theorem induct {P : Json → Prop} (hscalar : ∀ j, j.valueType ≠ .list → j.valueType ≠ .dict → P j)
    (harr : ∀ items : List Json, (∀ item ∈ items, P item) → P (.arr items))
    (hobj : ∀ members : Members, (∀ member ∈ members, P member.2) → P (.obj members)) (j : Json) :
    P j := by
  refine induct_value ?_ (fun b => ?_) (fun n => ?_) (fun x => ?_) (fun s => ?_) harr hobj j
  all_goals exact hscalar _ (by simp [valueType]) (by simp [valueType])

mutual

/-- No object inside the value has a name twice. -/
def distinctKeys : Json → Bool
  | .arr items => distinctKeysItems items
  | .obj members => decide (members.map Prod.fst).Nodup && distinctKeysMembers members
  | _ => true

def distinctKeysItems : List Json → Bool
  | [] => true
  | item :: items => distinctKeys item && distinctKeysItems items

def distinctKeysMembers : Members → Bool
  | [] => true
  | (_, value) :: members => distinctKeys value && distinctKeysMembers members

end

theorem distinctKeysItems_iff {items : List Json} :
    distinctKeysItems items = true ↔ ∀ item ∈ items, distinctKeys item = true := by
  induction items with
  | nil => simp [distinctKeysItems]
  | cons item items ih => simp [distinctKeysItems, ih]

theorem distinctKeysMembers_iff {members : Members} :
    distinctKeysMembers members = true ↔ ∀ member ∈ members, distinctKeys member.2 = true := by
  induction members with
  | nil => simp [distinctKeysMembers]
  | cons member members ih => simp [distinctKeysMembers, ih]

theorem distinctKeys_arr {items : List Json} :
    distinctKeys (.arr items) = true ↔ ∀ item ∈ items, distinctKeys item = true :=
  distinctKeysItems_iff

theorem distinctKeys_obj {members : Members} :
    distinctKeys (.obj members) = true ↔
      (members.map Prod.fst).Nodup ∧ ∀ member ∈ members, distinctKeys member.2 = true := by
  rw [distinctKeys, Bool.and_eq_true, decide_eq_true_eq, distinctKeysMembers_iff]

theorem lookup_of_mem {members : Members} (h : (members.map Prod.fst).Nodup) {name : String}
    {value : Json} (hmem : (name, value) ∈ members) : members.lookup name = some value := by
  induction members with
  | nil => cases hmem
  | cons member members ih =>
    obtain ⟨hnotin, h⟩ := List.nodup_cons.mp h
    rcases List.mem_cons.mp hmem with rfl | hmem
    · simp
    · have hne : (name == member.1) = false := by
        rw [beq_eq_false_iff_ne]
        rintro rfl
        exact hnotin (List.mem_map.mpr ⟨_, hmem, rfl⟩)
      rw [List.lookup_cons, hne]
      exact ih h hmem

theorem mem_of_lookup {members : Members} {name : String} {value : Json}
    (h : members.lookup name = some value) : (name, value) ∈ members := by
  induction members with
  | nil => cases h
  | cons member members ih =>
    rw [List.lookup_cons] at h
    by_cases hname : (name == member.1) = true
    · rw [hname] at h
      cases h
      rw [beq_iff_eq.mp hname]
      exact List.mem_cons_self
    · rw [Bool.eq_false_iff.mpr hname] at h
      exact List.mem_cons_of_mem _ (ih h)

theorem sorted_ofPairs (pairs : Members) : Sorted (ofPairs pairs) := by
  have hfold : ∀ (pairs start : Members), Sorted start →
      Sorted (pairs.foldl (fun ms pair => insert pair.1 pair.2 ms) start) := by
    intro pairs
    induction pairs with
    | nil => exact fun start hstart => hstart
    | cons pair pairs ih =>
      intro start hstart
      exact ih _ (sorted_insert hstart)
  exact hfold pairs [] sorted_nil

/-- The members of a map in another order denote the same map. -/
theorem ofPairs_of_perm {pairs members : Members} (hsorted : Sorted members)
    (h : pairs.Perm members) : ofPairs pairs = members := by
  have hkeys {ms : Members} (hms : Sorted ms) : (ms.map Prod.fst).Nodup := hms.imp ne_of_lt
  have hpairs : (pairs.reverse.map Prod.fst).Nodup := by
    rw [List.map_reverse, List.nodup_reverse]
    exact (h.map Prod.fst).nodup_iff.mpr (hkeys hsorted)
  have hmem (member : String × Json) : member ∈ ofPairs pairs ↔ member ∈ members := by
    constructor
    · intro hpair
      exact h.mem_iff.mp (mem_ofPairs hpair)
    · intro hmember
      have hlookup := lookup_of_mem hpairs (List.mem_reverse.mpr (h.mem_iff.mpr hmember))
      rw [← lookup_ofPairs] at hlookup
      exact mem_of_lookup hlookup
  have hperm : (ofPairs pairs).Perm members :=
    (List.perm_ext_iff_of_nodup (hkeys (sorted_ofPairs pairs)).of_map (hkeys hsorted).of_map).mpr hmem
  refine hperm.eq_of_pairwise ?_ (List.pairwise_map.mp (sorted_ofPairs pairs))
    (List.pairwise_map.mp hsorted)
  intro a b _ _ hab hba
  exact absurd (hab.trans hba) (lt_irrefl _)

end Json
