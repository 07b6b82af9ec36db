import Mathlib.Algebra.BigOperators.Group.Finset.Basic
import ResearchOs.Data.Fold
import ResearchOs.Data.Json
import ResearchOs.Data.Loop
import ResearchOs.Data.ObjectGraph

/-! `snapshot_json_document`: a copy of a JSON document that shares no container with it. -/
namespace ResearchOs.Internal

open ObjectGraph

structure JsonCloneError where
  message : String
  deriving DecidableEq, Repr

def notAnObject : JsonCloneError := ⟨"event draft must be a JSON object"⟩

def onlyJsonValues : JsonCloneError := ⟨"event draft must contain only JSON values"⟩

def cyclicStructure : JsonCloneError := ⟨"event draft must not contain cyclic JSON structures"⟩

def stringKeys : JsonCloneError := ⟨"event draft keys must be JSON strings"⟩

/-- What `_is_json_atom` accepts. -/
inductive JsonAtom where
  | none
  | bool (b : Bool)
  | int (n : Int)
  | float (x : Binary64)
  | str (s : String)
  deriving DecidableEq, Repr

/-- A key of a dict; other keys than strings are told apart by a number. -/
inductive Key where
  | str (s : String)
  | other (n : Nat)
  deriving DecidableEq, Repr

abbrev HostValue := Value JsonAtom

/-- A plain dict, a plain list, or anything else. -/
abbrev HostObject := Object JsonAtom Key

abbrev HostHeap := Heap JsonAtom Key

/-- A value of the host, with the finite graph of objects behind it. -/
structure Document where
  heap : HostHeap
  root : HostValue
  rooted : ∀ r, root = .ref r → r < heap.length
  closed : ∀ object ∈ heap, ∀ r, .ref r ∈ object.values → r < heap.length
  distinct : ∀ entries, .dict entries ∈ heap → (entries.map Prod.fst).Nodup

/-- A place in a container. -/
inductive Slot where
  | key (s : String)
  | index (i : Nat)
  deriving DecidableEq, Repr

def isContainer : HostObject → Bool
  | .dict _ => true
  | .list _ => true
  | .other => false

/-- `_new_json_clone` -/
def newJsonClone : HostObject → HostObject
  | .dict _ => .dict []
  | .list items => .list (List.replicate items.length (.atom .none))
  | .other => .other

def jsonMember : Key × HostValue → Except JsonCloneError (Slot × HostValue)
  | (.str s, child) => .ok (.key s, child)
  | (.other _, _) => .error stringKeys

/-- `_json_children` -/
def jsonChildren : HostObject → Except JsonCloneError (List (Slot × HostValue))
  | .dict entries => entries.mapM jsonMember
  | .list items => .ok (items.zipIdx.map fun p => (.index p.2, p.1))
  | .other => .ok []

/-- Assignment to a key of a dict. -/
def setKey (entries : List (Key × HostValue)) (key : Key) (value : HostValue) :
    List (Key × HostValue) :=
  if key ∈ entries.map Prod.fst then entries.map fun e => if e.1 = key then (key, value) else e
  else entries ++ [(key, value)]

/-- `_assign_json_clone` -/
def assignJsonClone (clone : HostObject) (slot : Slot) (value : HostValue) : HostObject :=
  match clone, slot with
  | .dict entries, .key s => .dict (setKey entries (.str s) value)
  | .list items, .index i => .list (items.set i value)
  | clone, _ => clone

/-- A container in progress, its clone, its children, and how many of them are done. -/
structure Frame where
  node : Nat
  clone : Nat
  children : List (Slot × HostValue)
  index : Nat := 0

structure CloneState where
  heap : HostHeap
  clones : Nat → Option Nat := fun _ => none
  ancestors : Finset Nat := ∅
  stack : List Frame := []

namespace CloneState

variable (s : CloneState)

/-- A new clone, registered for its object. -/
def newClone (r : Nat) (object : HostObject) : CloneState :=
  { s with
    heap := s.heap ++ [newJsonClone object]
    clones := Function.update s.clones r (some s.heap.length) }

def assign (clone : Nat) (slot : Slot) (value : HostValue) : CloneState :=
  { s with heap := s.heap.modify clone fun object => assignJsonClone object slot value }

/-- One more child of the innermost object is looked at. -/
def advance (frame : Frame) (rest : List Frame) : CloneState :=
  { s with stack := { frame with index := frame.index + 1 } :: rest }

/-- An object becomes the innermost one in progress. -/
def enter (node clone : Nat) (children : List (Slot × HostValue)) : CloneState :=
  { s with
    ancestors := insert node s.ancestors
    stack := { node, clone, children } :: s.stack }

/-- The innermost object is done. -/
def leave (node : Nat) (rest : List Frame) : CloneState :=
  { s with ancestors := s.ancestors.erase node, stack := rest }

end CloneState

/-- One turn of the loop over the stack. -/
def clonePass (s : CloneState) : CloneState ⊕ Except JsonCloneError HostHeap :=
  match s.stack with
  | [] => .inr (.ok s.heap)
  | frame :: rest =>
    match frame.children[frame.index]? with
    | none => .inl (s.leave frame.node rest)
    | some (slot, child) =>
      let s := s.advance frame rest
      match child with
      | .atom a => .inl (s.assign frame.clone slot (.atom a))
      | .ref r =>
        match s.heap[r]?.filter isContainer with
        | none => .inr (.error onlyJsonValues)
        | some object =>
          if r ∈ s.ancestors then .inr (.error cyclicStructure)
          else
            match s.clones r with
            | some existing => .inl (s.assign frame.clone slot (.ref existing))
            | none =>
              match jsonChildren object with
              | .error error => .inr (.error error)
              | .ok children =>
                .inl (((s.newClone r object).assign frame.clone slot (.ref s.heap.length)).enter r
                  s.heap.length children)

/-- The number of values in an object. -/
def Document.size (d : Document) (r : Nat) : Nat :=
  (d.heap[r]?.map fun object => object.values.length).getD 0

/-- `_snapshot_json_value`; every container is entered once, and each of its children takes a
turn. -/
def snapshotJsonValue (d : Document) : Option (Except JsonCloneError (HostHeap × HostValue)) :=
  match d.root with
  | .atom a => some (.ok (d.heap, .atom a))
  | .ref r =>
    match d.heap[r]?.filter isContainer with
    | none => some (.error onlyJsonValues)
    | some object =>
      match jsonChildren object with
      | .error error => some (.error error)
      | .ok children =>
        let start : CloneState := { heap := d.heap }
        (Loop.run clonePass ((∑ r ∈ Finset.range d.heap.length, (d.size r + 1)) + 1)
            ((start.newClone r object).enter r d.heap.length children)).map fun outcome =>
          outcome.map fun heap => (heap, .ref d.heap.length)

/-- `type(value) is dict` -/
def isDict (heap : HostHeap) : HostValue → Bool
  | .atom _ => false
  | .ref r =>
    match heap[r]? with
    | some (.dict _) => true
    | _ => false

def requireObject (heap : HostHeap) (value : HostValue) :
    Except JsonCloneError (HostHeap × HostValue) :=
  if isDict heap value = true then .ok (heap, value) else .error notAnObject

/-- `snapshot_json_document` -/
def snapshotJsonDocument (d : Document) : Option (Except JsonCloneError (HostHeap × HostValue)) :=
  match requireObject d.heap d.root with
  | .error error => some (.error error)
  | .ok _ => (snapshotJsonValue d).map fun outcome => outcome.bind fun p => requireObject p.1 p.2

/-- A dict with string keys, or a list. -/
def Plain : HostObject → Prop
  | .dict entries => ∀ e ∈ entries, ∃ s, e.1 = .str s
  | .list _ => True
  | .other => False

/-- A document that is JSON all the way down. -/
structure Clonable (d : Document) : Prop where
  dict : isDict d.heap d.root = true
  plain : ∀ r, Reaches d.heap d.root r → ∃ object, d.heap[r]? = some object ∧ Plain object
  acyclic : ∀ r, Reaches d.heap d.root r → ¬ Relation.TransGen (Holds d.heap) r r

variable {object object' : HostObject} {children : List (Slot × HostValue)} {slot : Slot}
  {child value : HostValue} {i n r k : Nat} {R R' : Nat → Nat → Prop} {error : JsonCloneError}

/-! Children. -/

theorem jsonMember_eq_ok {e : Key × HostValue} {p : Slot × HostValue} (h : jsonMember e = .ok p) :
    ∃ s, e = (.str s, p.2) ∧ p.1 = .key s := by
  obtain ⟨key, child⟩ := e
  cases key with
  | str s =>
    cases h
    exact ⟨s, rfl, rfl⟩
  | other n => cases h

theorem jsonChildren_values (h : jsonChildren object = .ok children) :
    children.map Prod.snd = object.values := by
  cases object with
  | dict entries =>
    have hmembers := Fold.mapM_eq_ok.mp h
    refine (Fold.map_eq_map_of_forall₂ hmembers ?_).symm
    intro e p hp
    obtain ⟨s, rfl, -⟩ := jsonMember_eq_ok hp
    rfl
  | list items =>
    cases h
    rw [List.map_map]
    exact List.zipIdx_map_fst 0 items
  | other =>
    cases h
    rfl

theorem plain_of_children (h : jsonChildren object = .ok children)
    (hcontainer : isContainer object = true) : Plain object := by
  cases object with
  | dict entries =>
    intro e he
    obtain ⟨p, -, hp⟩ := Fold.exists_of_mem_right (R := fun p e => jsonMember e = .ok p)
      (Fold.mapM_eq_ok.mp h).flip he
    obtain ⟨s, rfl, -⟩ := jsonMember_eq_ok hp
    exact ⟨s, rfl⟩
  | list items => trivial
  | other => cases hcontainer

theorem not_plain_of_children (h : jsonChildren object = .error error) : ¬ Plain object := by
  cases object with
  | dict entries =>
    intro hplain
    have hmember : ∀ e ∈ entries, ∃ p, jsonMember e = .ok p := by
      intro e he
      obtain ⟨s, hs⟩ := hplain e he
      exact ⟨(.key s, e.2), by rw [← Prod.eta e, hs]; rfl⟩
    obtain ⟨ps, hps⟩ := Fold.exists_mapM_eq_ok hmember
    have hok : jsonChildren (.dict entries) = .ok ps := hps
    rw [h] at hok
    cases hok
  | list items => cases h
  | other => cases h

end ResearchOs.Internal
