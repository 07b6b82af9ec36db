import Mathlib.Data.List.Pairwise
import ResearchOs.Internal.JsonClone

/-! The copy of a document is made exactly when the document is JSON all the way down. -/
namespace ResearchOs.Internal

open ObjectGraph
open Relation (ReflTransGen TransGen)

variable {object object' : HostObject} {children : List (Slot × HostValue)} {slot : Slot}
  {child value : HostValue} {i n r k root : Nat} {R R' : Nat → Nat → Prop} {error : JsonCloneError}
  {d : Document} {s next : CloneState} {frame : Frame} {rest below : List Frame}

/-! A clone that is filled in child by child. -/

/-- The first children of an object stand in its clone. -/
inductive Copied (R : Nat → Nat → Prop) : HostObject → Nat → HostObject → Prop where
  | dict {entries entries' : List (Key × HostValue)} {i : Nat}
      (h : List.Forall₂ (fun e e' => e.1 = e'.1 ∧ Alike R e.2 e'.2) (entries.take i) entries') :
      Copied R (.dict entries) i (.dict entries')
  | list {items first : List HostValue} {i : Nat} (h : List.Forall₂ (Alike R) (items.take i) first) :
      Copied R (.list items) i (.list (first ++ List.replicate (items.length - i) (.atom .none)))

theorem Copied.mono (h : Copied R object i object') (hR : ∀ r k, R r k → R' r k) :
    Copied R' object i object' := by
  cases h with
  | dict h => exact .dict (h.imp fun _ _ hsame => ⟨hsame.1, hsame.2.mono hR⟩)
  | list h => exact .list (h.imp fun _ _ hsame => hsame.mono hR)

theorem copied_new (h : isContainer object = true) : Copied R object 0 (newJsonClone object) := by
  cases object with
  | dict entries => exact .dict .nil
  | list items =>
    have hnone : List.Forall₂ (Alike R) (items.take 0) [] := .nil
    exact .list hnone
  | other => cases h

theorem setKey_concat {entries : List (Key × HostValue)} {key : Key}
    (h : key ∉ entries.map Prod.fst) : setKey entries key value = entries ++ [(key, value)] := if_neg h

theorem exists_getElem?_left {α β : Type} {S : α → β → Prop} {xs : List α} {ys : List β} {y : β}
    (h : List.Forall₂ S xs ys) (hy : ys[i]? = some y) : ∃ x, xs[i]? = some x ∧ S x y := by
  induction h generalizing i with
  | nil => cases hy
  | cons hhead _ ih =>
    cases i with
    | zero =>
      cases hy
      exact ⟨_, rfl, hhead⟩
    | succ i => exact ih hy

theorem Copied.assign_key {entries entries' : List (Key × HostValue)} {key : String}
    (h : List.Forall₂ (fun e e' => e.1 = e'.1 ∧ Alike R e.2 e'.2) (entries.take i) entries')
    (hdistinct : (entries.map Prod.fst).Nodup) (hentry : entries[i]? = some (.str key, child))
    (halike : Alike R child value) :
    Copied R (.dict entries) (i + 1) (.dict (setKey entries' (.str key) value)) := by
  have htake : entries.take (i + 1) = entries.take i ++ [(.str key, child)] := by
    rw [List.take_add_one, hentry]
    rfl
  have hkeys : (entries.take i).map Prod.fst = entries'.map Prod.fst :=
    Fold.map_eq_map_of_forall₂ h fun _ _ hsame => hsame.1
  have hnew : Key.str key ∉ entries'.map Prod.fst := by
    have hnodup : ((entries.take (i + 1)).map Prod.fst).Nodup :=
      hdistinct.sublist ((List.take_sublist _ _).map _)
    rw [htake, List.map_append, hkeys, List.map_singleton] at hnodup
    exact fun hmem => (List.nodup_append'.mp hnodup).2.2 hmem (List.mem_singleton.mpr rfl)
  rw [setKey_concat hnew]
  refine .dict ?_
  rw [htake]
  exact List.rel_append h (.cons ⟨rfl, halike⟩ .nil)

theorem Copied.assign_index {items first : List HostValue}
    (h : List.Forall₂ (Alike R) (items.take i) first) (hitem : items[i]? = some child)
    (halike : Alike R child value) :
    Copied R (.list items) (i + 1)
      (.list ((first ++ List.replicate (items.length - i) (Value.atom JsonAtom.none)).set i value)) := by
  obtain ⟨hlt, -⟩ := List.getElem?_eq_some_iff.mp hitem
  have hlength : first.length = i := by
    rw [← h.length_eq, List.length_take]
    omega
  have hset : (first ++ List.replicate (items.length - i) (Value.atom JsonAtom.none)).set i value =
      (first ++ [value]) ++ List.replicate (items.length - (i + 1)) (Value.atom JsonAtom.none) := by
    obtain ⟨m, hm⟩ : ∃ m, items.length - i = m + 1 := ⟨items.length - i - 1, by omega⟩
    rw [hm, show items.length - (i + 1) = m by omega,
      List.set_append_right _ _ (Nat.le_of_eq hlength), hlength, Nat.sub_self,
      List.replicate_succ, List.set_cons_zero, List.append_assoc, List.singleton_append]
  rw [hset]
  refine .list ?_
  rw [List.take_add_one, hitem]
  exact List.rel_append h (.cons halike .nil)

/-- The next child is put in its place. -/
theorem Copied.assign (h : Copied R object i object')
    (hchildren : jsonChildren object = .ok children)
    (hdistinct : ∀ entries, object = .dict entries → (entries.map Prod.fst).Nodup)
    (hchild : children[i]? = some (slot, child)) (halike : Alike R child value) :
    Copied R object (i + 1) (assignJsonClone object' slot value) := by
  cases h with
  | dict h =>
    obtain ⟨e, he, hmember⟩ := exists_getElem?_left (Fold.mapM_eq_ok.mp hchildren) hchild
    obtain ⟨key, rfl, rfl⟩ := jsonMember_eq_ok hmember
    exact .assign_key h (hdistinct _ rfl) he halike
  | list h =>
    cases hchildren
    rw [List.getElem?_map, List.getElem?_zipIdx] at hchild
    obtain ⟨p, hp, hpair⟩ := Option.map_eq_some_iff.mp hchild
    obtain ⟨item, hitem, rfl⟩ := Option.map_eq_some_iff.mp hp
    cases hpair
    rw [Nat.zero_add]
    exact .assign_index h hitem halike

/-- With all children, the clone corresponds to its object. -/
theorem Copied.corresponds (h : Copied R object i object') (hall : object.values.length ≤ i) :
    Corresponds R object object' := by
  cases h with
  | dict h =>
    rw [List.take_of_length_le (by simpa [Object.values] using hall)] at h
    exact .dict h
  | @list items first i h =>
    have hlength : items.length ≤ i := hall
    rw [List.take_of_length_le hlength] at h
    rw [Nat.sub_eq_zero_of_le hlength, List.replicate_zero, List.append_nil]
    exact .list h

/-! What the loop keeps. -/

/-- The clone of an object so far. -/
def CloneState.Cloned (s : CloneState) (r k : Nat) : Prop := s.clones r = some k

/-- The children that are done. -/
def Frame.processed (frame : Frame) : List HostValue :=
  (frame.children.take frame.index).map Prod.snd

theorem Frame.processed_advance (hchild : frame.children[frame.index]? = some (slot, child)) :
    ({ frame with index := frame.index + 1 } : Frame).processed = frame.processed ++ [child] := by
  rw [Frame.processed, List.take_add_one, hchild, List.map_append]
  rfl

theorem Frame.processed_of_end (hend : frame.children[frame.index]? = none) :
    frame.processed = frame.children.map Prod.snd := by
  rw [Frame.processed, List.take_of_length_le (List.getElem?_eq_none_iff.mp hend)]

structure InProgress (d : Document) (s : CloneState) (frame : Frame) : Prop where
  cloned : s.Cloned frame.node frame.clone
  copied : ∃ object object', d.heap[frame.node]? = some object ∧ isContainer object = true ∧
    jsonChildren object = .ok frame.children ∧ s.heap[frame.clone]? = some object' ∧
    Copied s.Cloned object frame.index object'

structure Finished (d : Document) (s : CloneState) (r k : Nat) : Prop where
  copied : ∃ object object', d.heap[r]? = some object ∧ Plain object ∧ s.heap[k]? = some object' ∧
    Corresponds s.Cloned object object'
  grounded : Grounded d.heap r

/-- A new clone whose object is not in progress yet. -/
structure Fresh (d : Document) (s : CloneState) (r : Nat) : Prop where
  left : r ∉ s.ancestors
  copied : ∃ object k, s.Cloned r k ∧ d.heap[r]? = some object ∧ isContainer object = true ∧
    s.heap[k]? = some (newJsonClone object)

structure Copying (d : Document) (root : Nat) (fresh : Option Nat) (s : CloneState) : Prop where
  long : d.heap.length ≤ s.heap.length
  kept : ∀ r, r < d.heap.length → s.heap[r]? = d.heap[r]?
  cloneNew : ∀ r k, s.Cloned r k → r < d.heap.length ∧ d.heap.length ≤ k ∧ k < s.heap.length
  cloneInj : ∀ r r' k, s.Cloned r k → s.Cloned r' k → r = r'
  ancestors : ∀ r, r ∈ s.ancestors ↔ r ∈ s.stack.map Frame.node
  nodes : (s.stack.map Frame.node).Nodup
  frames : ∀ frame ∈ s.stack, InProgress d s frame
  /-- What an object in progress has behind it is not in progress around it. -/
  settled : ∀ frame below, frame :: below <:+ s.stack → ∀ r, .ref r ∈ frame.processed →
    r ∉ (frame :: below).map Frame.node
  path : s.stack.Pairwise fun frame outer => TransGen (Holds d.heap) outer.node frame.node
  reached : ∀ frame ∈ s.stack, ReflTransGen (Holds d.heap) root frame.node
  finished : ∀ r k, s.Cloned r k → r ∉ s.ancestors → fresh ≠ some r → Finished d s r k
  fresh : ∀ r, fresh = some r → Fresh d s r

variable {fresh : Option Nat}

theorem Copying.ancestor (h : Copying d root fresh s) (hr : r ∈ s.ancestors) :
    ∃ k, s.Cloned r k := by
  obtain ⟨frame, hframe, rfl⟩ := List.mem_map.mp ((h.ancestors r).mp hr)
  exact ⟨frame.clone, (h.frames frame hframe).cloned⟩

theorem copying_start : Copying d root none { heap := d.heap } where
  long := Nat.le_refl _
  kept := fun _ _ => rfl
  cloneNew := fun _ _ h => by cases h
  cloneInj := fun _ _ _ h => by cases h
  ancestors := by simp
  nodes := List.nodup_nil
  frames := fun _ h => absurd h List.not_mem_nil
  settled := by simp
  path := .nil
  reached := fun _ h => absurd h List.not_mem_nil
  finished := fun _ _ h => by cases h
  fresh := fun _ h => by cases h

theorem cloned_newClone (h : s.Cloned r k) {q : Nat} (hq : s.clones q = none) :
    (s.newClone q object).Cloned r k := by
  have hne : r ≠ q := by
    rintro rfl
    rw [CloneState.Cloned, hq] at h
    cases h
  exact (Function.update_of_ne hne _ _).trans h

/-- A clone is the new one, or it was there before. -/
theorem newClone_cloned {q : Nat} (h : (s.newClone r object).Cloned q k) :
    q = r ∧ k = s.heap.length ∨ q ≠ r ∧ s.Cloned q k := by
  by_cases hqr : q = r
  · subst hqr
    exact .inl ⟨rfl, Option.some.inj (h.symm.trans (Function.update_self q _ _))⟩
  · exact .inr ⟨hqr, (Function.update_of_ne hqr _ _).symm.trans h⟩

theorem Copying.newClone (h : Copying d root none s) (hobject : d.heap[r]? = some object)
    (hcontainer : isContainer object = true) (hnone : s.clones r = none) :
    Copying d root (some r) (s.newClone r object) := by
  have hold : ∀ q k, s.Cloned q k → (s.newClone r object).Cloned q k :=
    fun q k hq => cloned_newClone hq hnone
  have hself : (s.newClone r object).Cloned r s.heap.length := Function.update_self r _ _
  have hheap : ∀ k, k < s.heap.length → (s.newClone r object).heap[k]? = s.heap[k]? :=
    fun k hk => List.getElem?_append_left hk
  have hlength : (s.newClone r object).heap.length = s.heap.length + 1 := by
    simp [CloneState.newClone]
  obtain ⟨hlt, -⟩ := List.getElem?_eq_some_iff.mp hobject
  constructor
  · exact hlength ▸ Nat.le_succ_of_le h.long
  · exact fun q hq => (hheap q (Nat.lt_of_lt_of_le hq h.long)).trans (h.kept q hq)
  · intro q k hq
    rcases newClone_cloned hq with ⟨rfl, rfl⟩ | ⟨-, hq⟩
    · exact ⟨hlt, h.long, hlength ▸ Nat.lt_succ_self _⟩
    · obtain ⟨hq, hk, hlast⟩ := h.cloneNew q k hq
      exact ⟨hq, hk, hlength ▸ Nat.lt_succ_of_lt hlast⟩
  · intro q q' k hq hq'
    rcases newClone_cloned hq with ⟨hqr, hk⟩ | ⟨-, hbefore⟩
    · rcases newClone_cloned hq' with ⟨hqr', -⟩ | ⟨-, hbefore'⟩
      · exact hqr.trans hqr'.symm
      · exact absurd (hk ▸ (h.cloneNew q' k hbefore').2.2) (Nat.lt_irrefl _)
    · rcases newClone_cloned hq' with ⟨-, hk⟩ | ⟨-, hbefore'⟩
      · exact absurd (hk ▸ (h.cloneNew q k hbefore).2.2) (Nat.lt_irrefl _)
      · exact h.cloneInj q q' k hbefore hbefore'
  · exact h.ancestors
  · exact h.nodes
  · intro frame hframe
    obtain ⟨hcloned, object, object', hobject, hkind, hchildren, hobject', hcopied⟩ :=
      h.frames frame hframe
    refine ⟨hold _ _ hcloned, object, object', hobject, hkind, hchildren, ?_, hcopied.mono hold⟩
    rw [hheap _ (h.cloneNew _ _ hcloned).2.2, hobject']
  · exact h.settled
  · exact h.path
  · exact h.reached
  · intro q k hq hleft hne
    rcases newClone_cloned hq with ⟨rfl, -⟩ | ⟨-, hq⟩
    · exact absurd rfl hne
    · obtain ⟨⟨object, object', hobject, hplain, hobject', hsame⟩, hgrounded⟩ :=
        h.finished q k hq hleft (by simp)
      refine ⟨⟨object, object', hobject, hplain, ?_, hsame.mono hold⟩, hgrounded⟩
      rw [hheap _ (h.cloneNew _ _ hq).2.2, hobject']
  · rintro q hq
    cases hq
    refine ⟨fun hmem => ?_, object, s.heap.length, hself, hobject, hcontainer, ?_⟩
    · obtain ⟨k, hk⟩ := h.ancestor hmem
      rw [CloneState.Cloned, hnone] at hk
      cases hk
    · exact List.getElem?_concat_length ..

/-! The turns that go on. -/

theorem heap_assign_of_ne {clone : Nat} (hne : k ≠ clone) :
    (s.assign clone slot value).heap[k]? = s.heap[k]? := by
  simp [CloneState.assign, Ne.symm hne]

theorem heap_assign_self {clone : Nat} (h : s.heap[clone]? = some object) :
    (s.assign clone slot value).heap[clone]? = some (assignJsonClone object slot value) := by
  simp [CloneState.assign, h]

/-- One more child of the innermost object is done. -/
theorem Copying.assign (h : Copying d root fresh s) (hstack : s.stack = frame :: rest)
    (hchild : frame.children[frame.index]? = some (slot, child)) (halike : Alike s.Cloned child value)
    (hsettled : ∀ r, child = .ref r → r ∉ s.ancestors) :
    Copying d root fresh ((s.advance frame rest).assign frame.clone slot value) := by
  set next := (s.advance frame rest).assign frame.clone slot value with hnext
  have hnodes : next.stack.map Frame.node = s.stack.map Frame.node := by rw [hstack]; rfl
  have hlength : next.heap.length = s.heap.length := List.length_modify _ _ _
  have hmem : frame ∈ s.stack := hstack ▸ List.mem_cons_self
  have hframe := h.frames frame hmem
  have hinner : frame.node ∈ s.ancestors := (h.ancestors _).mpr (List.mem_map_of_mem hmem)
  -- Only the clone of the innermost object changes.
  have hother : ∀ r k, s.Cloned r k → r ≠ frame.node → next.heap[k]? = s.heap[k]? := by
    intro r k hr hne
    exact heap_assign_of_ne fun hk => hne (h.cloneInj r frame.node k hr (hk ▸ hframe.cloned))
  obtain ⟨hcloned, object, object', hobject, hkind, hchildren, hobject', hcopied⟩ := hframe
  constructor
  · exact hlength ▸ h.long
  · intro r hr
    have hne : r ≠ frame.clone := by
      have hlong := (h.cloneNew _ _ hcloned).2.1
      omega
    exact (heap_assign_of_ne hne).trans (h.kept r hr)
  · exact hlength ▸ h.cloneNew
  · exact h.cloneInj
  · exact hnodes ▸ h.ancestors
  · exact hnodes ▸ h.nodes
  · intro outer houter
    rcases List.mem_cons.mp houter with rfl | houter
    · refine ⟨hcloned, object, _, hobject, hkind, hchildren, heap_assign_self hobject', ?_⟩
      refine hcopied.assign hchildren ?_ hchild halike
      rintro entries rfl
      exact d.distinct entries (List.mem_of_getElem? hobject)
    · obtain ⟨hcloned', before, after, hbefore, hkind', hchildren', hafter, hcopied'⟩ :=
        h.frames outer (hstack ▸ List.mem_cons_of_mem _ houter)
      refine ⟨hcloned', before, after, hbefore, hkind', hchildren', ?_, hcopied'⟩
      rw [hother _ _ hcloned' fun hsame => ?_, hafter]
      have hnodup := h.nodes
      rw [hstack, List.map_cons, List.nodup_cons] at hnodup
      exact hnodup.1 (hsame ▸ List.mem_map_of_mem houter)
  · intro f below hsuffix r hr
    rcases List.suffix_cons_iff.mp hsuffix with hsame | hsuffix
    · -- The innermost object: the new child is not in progress.
      obtain ⟨rfl, rfl⟩ := List.cons.inj hsame
      rw [Frame.processed_advance hchild] at hr
      rcases List.mem_append.mp hr with hr | hr
      · exact h.settled frame below (hstack ▸ List.suffix_rfl) r hr
      · have hleft := hsettled r (List.mem_singleton.mp hr).symm
        rw [h.ancestors, hstack] at hleft
        exact hleft
    · exact h.settled f below (hstack ▸ hsuffix.trans (List.suffix_cons _ _)) r hr
  · have hpath := h.path
    rw [hstack] at hpath
    exact List.pairwise_cons.mpr (List.pairwise_cons.mp hpath)
  · intro outer houter
    rcases List.mem_cons.mp houter with rfl | houter
    · exact h.reached frame hmem
    · exact h.reached outer (hstack ▸ List.mem_cons_of_mem _ houter)
  · intro r k hr hleft hne
    obtain ⟨⟨before, after, hbefore, hplain, hafter, hsame⟩, hgrounded⟩ :=
      h.finished r k hr hleft hne
    refine ⟨⟨before, after, hbefore, hplain, ?_, hsame⟩, hgrounded⟩
    rw [hother r k hr fun hnode => hleft (hnode ▸ hinner), hafter]
  · intro r hr
    obtain ⟨hleft, before, k, hk, hbefore, hkind', hafter⟩ := h.fresh r hr
    refine ⟨hleft, before, k, hk, hbefore, hkind', ?_⟩
    rw [hother r k hk fun hnode => hleft (hnode ▸ hinner), hafter]

/-- The object of the new clone becomes the innermost one. -/
theorem Copying.enter (h : Copying d root (some r) s) (hclone : s.Cloned r k)
    (hobject : d.heap[r]? = some object) (hchildren : jsonChildren object = .ok children)
    (hpath : ∀ frame ∈ s.stack, TransGen (Holds d.heap) frame.node r)
    (hreached : ReflTransGen (Holds d.heap) root r) :
    Copying d root none (s.enter r k children) := by
  obtain ⟨hleft, object', k', hk', hobject', hkind, hblank⟩ := h.fresh r rfl
  obtain rfl : k' = k := Option.some.inj (hk'.symm.trans hclone)
  obtain rfl : object' = object := Option.some.inj (hobject'.symm.trans hobject)
  constructor
  · exact h.long
  · exact h.kept
  · exact h.cloneNew
  · exact h.cloneInj
  · intro q
    rw [CloneState.enter, Finset.mem_insert, List.map_cons, List.mem_cons, h.ancestors]
  · rw [CloneState.enter, List.map_cons, List.nodup_cons, ← h.ancestors]
    exact ⟨hleft, h.nodes⟩
  · intro frame hframe
    rcases List.mem_cons.mp hframe with rfl | hframe
    · exact ⟨hclone, object', _, hobject, hkind, hchildren, hblank, copied_new hkind⟩
    · obtain ⟨hcloned, hcopied⟩ := h.frames frame hframe
      exact ⟨hcloned, hcopied⟩
  · intro frame below hsuffix q hq
    rcases List.suffix_cons_iff.mp hsuffix with hsame | hsuffix
    · obtain ⟨rfl, rfl⟩ := List.cons.inj hsame
      cases hq
    · exact h.settled frame below hsuffix q hq
  · exact List.pairwise_cons.mpr ⟨hpath, h.path⟩
  · intro frame hframe
    rcases List.mem_cons.mp hframe with rfl | hframe
    · exact hreached
    · exact h.reached frame hframe
  · intro q m hq hnot _
    rw [CloneState.enter, Finset.mem_insert, not_or] at hnot
    obtain ⟨hcopied, hgrounded⟩ :=
      h.finished q m hq hnot.2 fun hsame => hnot.1 (Option.some.inj hsame).symm
    exact ⟨hcopied, hgrounded⟩
  · exact fun _ hq => by cases hq

/-- With its last child an object is finished: its children are finished before. -/
theorem Copying.finishes (h : Copying d root none s) (hstack : s.stack = frame :: rest)
    (hend : frame.children[frame.index]? = none) : Finished d s frame.node frame.clone := by
  obtain ⟨hcloned, object, object', hobject, hkind, hchildren, hobject', hcopied⟩ :=
    h.frames frame (hstack ▸ List.mem_cons_self)
  have hvalues := jsonChildren_values hchildren
  have hall : object.values.length ≤ frame.index := by
    rw [← hvalues, List.length_map]
    exact List.getElem?_eq_none_iff.mp hend
  have hsame := hcopied.corresponds hall
  refine ⟨⟨object, object', hobject, plain_of_children hchildren hkind, hobject', hsame⟩, ?_⟩
  refine Acc.intro _ ?_
  rintro child ⟨holder, hholder, hchild⟩
  obtain rfl : holder = object := Option.some.inj (hholder.symm.trans hobject)
  obtain ⟨k, hk⟩ := hsame.ref_left hchild
  have hprocessed : .ref child ∈ frame.processed := by
    rw [Frame.processed_of_end hend, hvalues]
    exact hchild
  have hout := h.settled frame rest (hstack ▸ List.suffix_rfl) child hprocessed
  rw [← hstack, ← h.ancestors] at hout
  exact (h.finished child k hk hout (by simp)).grounded

/-- The innermost object is done. -/
theorem Copying.leave (h : Copying d root none s) (hstack : s.stack = frame :: rest)
    (hend : frame.children[frame.index]? = none) :
    Copying d root none (s.leave frame.node rest) := by
  have hmem : frame ∈ s.stack := hstack ▸ List.mem_cons_self
  have hnodup := h.nodes
  rw [hstack, List.map_cons, List.nodup_cons] at hnodup
  constructor
  · exact h.long
  · exact h.kept
  · exact h.cloneNew
  · exact h.cloneInj
  · intro r
    rw [CloneState.leave, Finset.mem_erase, h.ancestors, hstack, List.map_cons, List.mem_cons]
    constructor
    · rintro ⟨hne, hr | hr⟩
      · exact absurd hr hne
      · exact hr
    · intro hr
      exact ⟨fun hsame => hnodup.1 (hsame ▸ hr), .inr hr⟩
  · exact hnodup.2
  · intro outer houter
    obtain ⟨hcloned, hcopied⟩ := h.frames outer (hstack ▸ List.mem_cons_of_mem _ houter)
    exact ⟨hcloned, hcopied⟩
  · exact fun f below hsuffix => h.settled f below (hstack ▸ hsuffix.trans (List.suffix_cons _ _))
  · exact (List.pairwise_cons.mp (hstack ▸ h.path)).2
  · exact fun outer houter => h.reached outer (hstack ▸ List.mem_cons_of_mem _ houter)
  · intro r k hr hleft _
    rw [CloneState.leave, Finset.mem_erase, not_and] at hleft
    by_cases hself : r = frame.node
    · subst hself
      obtain rfl : k = frame.clone := Option.some.inj (hr.symm.trans (h.frames frame hmem).cloned)
      obtain ⟨hcopied, hgrounded⟩ := h.finishes hstack hend
      exact ⟨hcopied, hgrounded⟩
    · obtain ⟨hcopied, hgrounded⟩ := h.finished r k hr (hleft hself) (by simp)
      exact ⟨hcopied, hgrounded⟩
  · exact fun _ hr => by cases hr

/-- What one turn of the loop can do. -/
inductive Turn (s : CloneState) : CloneState ⊕ Except JsonCloneError HostHeap → Prop where
  | finished (hstack : s.stack = []) : Turn s (.inr (.ok s.heap))
  | leave {frame : Frame} {rest : List Frame} (hstack : s.stack = frame :: rest)
      (hend : frame.children[frame.index]? = none) : Turn s (.inl (s.leave frame.node rest))
  | atom {frame : Frame} {rest : List Frame} {slot : Slot} {a : JsonAtom}
      (hstack : s.stack = frame :: rest)
      (hchild : frame.children[frame.index]? = some (slot, .atom a)) :
      Turn s (.inl ((s.advance frame rest).assign frame.clone slot (.atom a)))
  | foreign {frame : Frame} {rest : List Frame} {slot : Slot} {r : Nat}
      (hstack : s.stack = frame :: rest)
      (hchild : frame.children[frame.index]? = some (slot, .ref r))
      (hobject : s.heap[r]?.filter isContainer = none) : Turn s (.inr (.error onlyJsonValues))
  | cycle {frame : Frame} {rest : List Frame} {slot : Slot} {r : Nat}
      (hstack : s.stack = frame :: rest)
      (hchild : frame.children[frame.index]? = some (slot, .ref r)) (hr : r ∈ s.ancestors) :
      Turn s (.inr (.error cyclicStructure))
  | shared {frame : Frame} {rest : List Frame} {slot : Slot} {r k : Nat}
      (hstack : s.stack = frame :: rest)
      (hchild : frame.children[frame.index]? = some (slot, .ref r)) (hleft : r ∉ s.ancestors)
      (hclone : s.Cloned r k) :
      Turn s (.inl ((s.advance frame rest).assign frame.clone slot (.ref k)))
  | keys {frame : Frame} {rest : List Frame} {slot : Slot} {r : Nat} {object : HostObject}
      {error : JsonCloneError} (hstack : s.stack = frame :: rest)
      (hchild : frame.children[frame.index]? = some (slot, .ref r))
      (hobject : s.heap[r]?.filter isContainer = some object)
      (hchildren : jsonChildren object = .error error) : Turn s (.inr (.error error))
  | enter {frame : Frame} {rest : List Frame} {slot : Slot} {r : Nat} {object : HostObject}
      {children : List (Slot × HostValue)} (hstack : s.stack = frame :: rest)
      (hchild : frame.children[frame.index]? = some (slot, .ref r))
      (hobject : s.heap[r]?.filter isContainer = some object) (hleft : r ∉ s.ancestors)
      (hnone : s.clones r = none) (hchildren : jsonChildren object = .ok children) :
      Turn s (.inl ((((s.advance frame rest).newClone r object).assign frame.clone slot
        (.ref s.heap.length)).enter r s.heap.length children))

theorem turn_of_clonePass (s : CloneState) : Turn s (clonePass s) := by
  unfold clonePass
  split
  · rename_i hstack
    exact .finished hstack
  · rename_i frame rest hstack
    split
    · rename_i hend
      exact .leave hstack hend
    · rename_i slot child hchild
      dsimp only
      split
      · exact .atom hstack hchild
      · split
        · rename_i hobject
          exact .foreign hstack hchild hobject
        · rename_i object hobject
          split_ifs with hr
          · exact .cycle hstack hchild hr
          · split
            · rename_i hclone
              exact .shared hstack hchild hr hclone
            · rename_i hnone
              split
              · rename_i hchildren
                exact .keys hstack hchild hobject hchildren
              · rename_i hchildren
                exact .enter hstack hchild hobject hr hnone hchildren

/-- A child of the innermost object is an object of the document. -/
theorem Copying.holds_child (h : Copying d root fresh s) (hstack : s.stack = frame :: rest)
    (hchild : frame.children[frame.index]? = some (slot, .ref r)) :
    Holds d.heap frame.node r ∧ s.heap[r]? = d.heap[r]? := by
  obtain ⟨-, object, -, hobject, -, hchildren, -⟩ := h.frames frame (hstack ▸ List.mem_cons_self)
  have hmem : .ref r ∈ object.values := by
    rw [← jsonChildren_values hchildren]
    exact List.mem_map_of_mem (List.mem_of_getElem? hchild)
  have hlt := d.closed object (List.mem_of_getElem? hobject) r hmem
  exact ⟨⟨object, hobject, hmem⟩, h.kept r hlt⟩

/-- The values of the objects without a clone, with one turn more for each. -/
def unopened (d : Document) (s : CloneState) : Nat :=
  ∑ r ∈ (Finset.range d.heap.length).filter (fun r => s.clones r = none), (d.size r + 1)

/-- The turns that the objects in progress still take. -/
def inside : List Frame → Nat
  | [] => 0
  | frame :: rest => frame.children.length - frame.index + 1 + inside rest

def turnsLeft (d : Document) (s : CloneState) : Nat := unopened d s + inside s.stack

theorem unopened_newClone (hlt : r < d.heap.length) (hnone : s.clones r = none) :
    unopened d (s.newClone r object) + (d.size r + 1) = unopened d s := by
  have hmem : r ∈ (Finset.range d.heap.length).filter fun q => s.clones q = none :=
    Finset.mem_filter.mpr ⟨Finset.mem_range.mpr hlt, hnone⟩
  have herase : ((Finset.range d.heap.length).filter fun q =>
      (s.newClone r object).clones q = none) =
        ((Finset.range d.heap.length).filter fun q => s.clones q = none).erase r := by
    ext q
    rw [Finset.mem_erase, Finset.mem_filter, Finset.mem_filter, CloneState.newClone]
    by_cases hq : q = r
    · simp [hq]
    · simp [hq]
  rw [unopened, herase, unopened, Nat.add_comm]
  exact Finset.add_sum_erase _ (fun r => d.size r + 1) hmem

theorem size_of_children (hobject : d.heap[r]? = some object)
    (hchildren : jsonChildren object = .ok children) : d.size r = children.length := by
  rw [Document.size, hobject, Option.map_some, Option.getD_some, ← jsonChildren_values hchildren,
    List.length_map]

theorem inside_advance (hstack : s.stack = frame :: rest)
    (hchild : frame.children[frame.index]? = some (slot, child)) :
    inside (s.advance frame rest).stack + 1 = inside s.stack := by
  have hindex := (List.getElem?_eq_some_iff.mp hchild).1
  rw [hstack, CloneState.advance, inside, inside]
  dsimp only
  omega

theorem inside_leave (hstack : s.stack = frame :: rest) :
    inside (s.leave r rest).stack < inside s.stack := by
  rw [hstack, CloneState.leave, inside]
  dsimp only
  omega

/-- The object of a new clone is entered below the innermost one. -/
theorem Copying.open (h : Copying d root none s) (hstack : s.stack = frame :: rest)
    (hchild : frame.children[frame.index]? = some (slot, .ref r))
    (hobject : d.heap[r]? = some object) (hkind : isContainer object = true)
    (hleft : r ∉ s.ancestors) (hnone : s.clones r = none)
    (hchildren : jsonChildren object = .ok children) :
    Copying d root none ((((s.advance frame rest).newClone r object).assign frame.clone slot
      (.ref s.heap.length)).enter r s.heap.length children) := by
  have hmem : frame ∈ s.stack := hstack ▸ List.mem_cons_self
  have hholds := (h.holds_child hstack hchild).1
  have hclone : (s.newClone r object).Cloned r s.heap.length := Function.update_self r _ _
  have hnext := (h.newClone hobject hkind hnone).assign hstack hchild (.ref hclone)
    fun q hq => by
      cases hq
      exact hleft
  refine hnext.enter hclone hobject hchildren ?_ ((h.reached frame hmem).tail hholds)
  have hpath := h.path
  rw [hstack, List.pairwise_cons] at hpath
  intro outer houter
  rcases List.mem_cons.mp houter with rfl | houter
  · exact .single hholds
  · exact .tail (hpath.1 outer houter) hholds

/-- The root keeps its clone, which is the first one. -/
structure Snapshotting (d : Document) (root : Nat) (s : CloneState) : Prop where
  copying : Copying d root none s
  first : s.Cloned root d.heap.length

theorem descends : Loop.Descends clonePass (Snapshotting d root) (turnsLeft d) where
  keeps := by
    rintro s next ⟨hcopying, hfirst⟩ hpass
    have hturn := turn_of_clonePass s
    rw [hpass] at hturn
    cases hturn with
    | leave hstack hend => exact ⟨hcopying.leave hstack hend, hfirst⟩
    | @atom frame rest slot a hstack hchild =>
      exact ⟨hcopying.assign hstack hchild (.atom a) (fun r hr => by cases hr), hfirst⟩
    | shared hstack hchild hleft hclone =>
      refine ⟨hcopying.assign hstack hchild (.ref hclone) fun q hq => ?_, hfirst⟩
      cases hq
      exact hleft
    | @enter frame rest slot r object children hstack hchild hobject hleft hnone hchildren =>
      obtain ⟨hobject, hkind⟩ := Option.filter_eq_some_iff.mp hobject
      rw [(hcopying.holds_child hstack hchild).2] at hobject
      have hfirst' : (s.newClone r object).Cloned root d.heap.length := cloned_newClone hfirst hnone
      exact ⟨hcopying.open hstack hchild hobject hkind hleft hnone hchildren, hfirst'⟩
  lowers := by
    rintro s next ⟨hcopying, -⟩ hpass
    have hturn := turn_of_clonePass s
    rw [hpass] at hturn
    cases hturn with
    | leave hstack hend => exact Nat.add_lt_add_left (inside_leave hstack) _
    | atom hstack hchild =>
      exact Nat.add_lt_add_left (Nat.lt_of_succ_le (inside_advance hstack hchild).le) _
    | shared hstack hchild hleft hclone =>
      exact Nat.add_lt_add_left (Nat.lt_of_succ_le (inside_advance hstack hchild).le) _
    | @enter frame rest slot r object children hstack hchild hobject hleft hnone hchildren =>
      obtain ⟨hobject, -⟩ := Option.filter_eq_some_iff.mp hobject
      rw [(hcopying.holds_child hstack hchild).2] at hobject
      have hlt := (List.getElem?_eq_some_iff.mp hobject).1
      have hopen : unopened d (s.newClone r object) + (d.size r + 1) = unopened d s :=
        unopened_newClone hlt hnone
      rw [size_of_children hobject hchildren] at hopen
      have hinside := inside_advance hstack hchild
      have hafter : turnsLeft d ((((s.advance frame rest).newClone r object).assign frame.clone slot
          (.ref s.heap.length)).enter r s.heap.length children) =
            unopened d (s.newClone r object) +
              (children.length + 1 + inside (s.advance frame rest).stack) := rfl
      rw [hafter, turnsLeft]
      omega

/-! The outcome. -/

theorem isContainer_of_plain (h : Plain object) : isContainer object = true := by
  cases object with
  | dict entries => rfl
  | list items => rfl
  | other => exact h.elim

theorem Copying.reaches (h : Copying d root fresh s) (hroot : d.root = .ref root)
    (hstack : s.stack = frame :: rest)
    (hchild : frame.children[frame.index]? = some (slot, .ref r)) : Reaches d.heap d.root r :=
  ⟨root, hroot, (h.reached frame (hstack ▸ List.mem_cons_self)).tail
    (h.holds_child hstack hchild).1⟩

/-- What the loop refuses is not JSON. -/
theorem Copying.raises (h : Copying d root none s) (hroot : d.root = .ref root)
    (hpass : clonePass s = .inr (.error error)) : ¬ Clonable d := by
  intro hclonable
  have hturn := turn_of_clonePass s
  rw [hpass] at hturn
  cases hturn with
  | foreign hstack hchild hobject =>
    obtain ⟨object, hfound, hplain⟩ := hclonable.plain _ (h.reaches hroot hstack hchild)
    rw [(h.holds_child hstack hchild).2, hfound] at hobject
    have hkind := Option.filter_eq_none_iff.mp hobject object rfl
    exact hkind (isContainer_of_plain hplain)
  | @cycle frame rest slot r hstack hchild hr =>
    refine hclonable.acyclic r (h.reaches hroot hstack hchild) ?_
    have hholds := (h.holds_child hstack hchild).1
    have hpath := h.path
    rw [h.ancestors, hstack, List.map_cons, List.mem_cons] at hr
    rw [hstack, List.pairwise_cons] at hpath
    rcases hr with rfl | hr
    · exact .single hholds
    · obtain ⟨outer, houter, rfl⟩ := List.mem_map.mp hr
      exact .tail (hpath.1 outer houter) hholds
  | keys hstack hchild hobject hchildren =>
    obtain ⟨object, hfound, hplain⟩ := hclonable.plain _ (h.reaches hroot hstack hchild)
    obtain ⟨hobject, -⟩ := Option.filter_eq_some_iff.mp hobject
    rw [(h.holds_child hstack hchild).2, hfound] at hobject
    cases hobject
    exact not_plain_of_children hchildren hplain

/-- A new graph with the tree of the document. -/
structure CopyOf (d : Document) (heap : HostHeap) (copy : HostValue) : Prop where
  kept : ∀ r, r < d.heap.length → heap[r]? = d.heap[r]?
  new : ∀ r, Reaches heap copy r → d.heap.length ≤ r
  dict : isDict heap copy = true
  same : ∃ n t, unfold d.heap n d.root = some t ∧ unfold heap n copy = some t

section

variable (h : Snapshotting d root s) (hstack : s.stack = [])
include h hstack

theorem Snapshotting.finished (hclone : s.Cloned r k) : Finished d s r k := by
  refine h.copying.finished r k hclone ?_ (by simp)
  rw [h.copying.ancestors, hstack]
  exact List.not_mem_nil

theorem Snapshotting.cloned (hreach : ReflTransGen (Holds d.heap) root r) : ∃ k, s.Cloned r k := by
  induction hreach with
  | refl => exact ⟨_, h.first⟩
  | tail _ hholds ih =>
    obtain ⟨k, hk⟩ := ih
    obtain ⟨⟨object, object', hobject, -, -, hsame⟩, -⟩ := h.finished hstack hk
    obtain ⟨found, hfound, hchild⟩ := hholds
    rw [hobject] at hfound
    cases hfound
    exact hsame.ref_left hchild

theorem Snapshotting.new (hclone : s.Cloned r k) {q : Nat}
    (hreach : ReflTransGen (Holds s.heap) k q) : d.heap.length ≤ q := by
  obtain ⟨p, hp⟩ : ∃ p, s.Cloned p q := by
    induction hreach with
    | refl => exact ⟨r, hclone⟩
    | tail _ hholds ih =>
      obtain ⟨p, hp⟩ := ih
      obtain ⟨⟨object, object', -, -, hobject', hsame⟩, -⟩ := h.finished hstack hp
      obtain ⟨found, hfound, hchild⟩ := hholds
      rw [hobject'] at hfound
      cases hfound
      exact hsame.ref_right hchild
  exact (h.copying.cloneNew p q hp).2.1

/-- Where the loop ends, the document is JSON all the way down, and it is copied. -/
theorem Snapshotting.copied (hroot : d.root = .ref root) (hdict : isDict d.heap d.root = true) :
    Clonable d ∧ CopyOf d s.heap (.ref d.heap.length) := by
  have hplain : ∀ r, ReflTransGen (Holds d.heap) root r →
      ∃ object, d.heap[r]? = some object ∧ Plain object := by
    intro r hr
    obtain ⟨k, hk⟩ := h.cloned hstack hr
    obtain ⟨⟨object, -, hobject, hplain, -, -⟩, -⟩ := h.finished hstack hk
    exact ⟨object, hobject, hplain⟩
  have hgrounded := (h.finished hstack h.first).grounded
  have hsame : ∀ r k, s.Cloned r k → ∃ object object', d.heap[r]? = some object ∧
      s.heap[k]? = some object' ∧ Corresponds s.Cloned object object' := by
    intro r k hk
    obtain ⟨⟨object, object', hobject, -, hobject', hsame⟩, -⟩ := h.finished hstack hk
    exact ⟨object, object', hobject, hobject', hsame⟩
  refine ⟨⟨hdict, ?_, ?_⟩, h.copying.kept, ?_, ?_, ?_⟩
  · rintro r ⟨start, hstart, hr⟩
    obtain rfl := Value.ref.inj (hroot.symm.trans hstart)
    exact hplain r hr
  · rintro r ⟨start, hstart, hr⟩
    obtain rfl := Value.ref.inj (hroot.symm.trans hstart)
    exact (hgrounded.reached hr).not_reaches_self
  · rintro r ⟨start, hstart, hr⟩
    cases hstart
    exact h.new hstack h.first hr
  · obtain ⟨object, object', hobject, hobject', hcorresponds⟩ := hsame _ _ h.first
    rw [hroot, isDict, hobject] at hdict
    rw [isDict, hobject']
    cases hcorresponds with
    | dict _ => rfl
    | list _ => cases hdict
  · obtain ⟨n, t, ht⟩ := hgrounded.unfolds fun q hq => by
      obtain ⟨object, hobject, hplain⟩ := hplain q hq
      refine ⟨object, hobject, ?_⟩
      rintro rfl
      exact hplain
    refine ⟨n, t, hroot ▸ ht, ?_⟩
    rw [← unfold_eq hsame (.ref h.first), ht]

end

theorem snapshotting_start (hobject : d.heap[r]? = some object) (hkind : isContainer object = true)
    (hchildren : jsonChildren object = .ok children) :
    Snapshotting d r ((({ heap := d.heap } : CloneState).newClone r object).enter r d.heap.length
      children) := by
  have hfirst : (({ heap := d.heap } : CloneState).newClone r object).Cloned r d.heap.length :=
    Function.update_self r _ _
  have hstart : Copying d r none { heap := d.heap } := copying_start
  have hnew := hstart.newClone hobject hkind rfl
  refine ⟨hnew.enter hfirst hobject hchildren ?_ .refl, hfirst⟩
  exact fun frame hframe => absurd hframe List.not_mem_nil

theorem turnsLeft_start (hobject : d.heap[r]? = some object)
    (hchildren : jsonChildren object = .ok children) :
    turnsLeft d ((({ heap := d.heap } : CloneState).newClone r object).enter r d.heap.length children) =
      ∑ r ∈ Finset.range d.heap.length, (d.size r + 1) := by
  have hlt := (List.getElem?_eq_some_iff.mp hobject).1
  have hopen : unopened d (({ heap := d.heap } : CloneState).newClone r object) + (d.size r + 1) =
      unopened d { heap := d.heap } := unopened_newClone hlt rfl
  rw [size_of_children hobject hchildren] at hopen
  have hall : unopened d { heap := d.heap } = ∑ r ∈ Finset.range d.heap.length, (d.size r + 1) := by
    rw [unopened, Finset.filter_true_of_mem fun _ _ => rfl]
  rw [← hall, ← hopen]
  rfl

theorem exists_of_isDict {heap : HostHeap} (h : isDict heap value = true) :
    ∃ r entries, value = .ref r ∧ heap[r]? = some (.dict entries) := by
  unfold isDict at h
  split at h
  · cases h
  · rename_i r
    split at h
    · rename_i entries hobject
      exact ⟨r, entries, rfl, hobject⟩
    · cases h

/-- What the loop over the stack comes to, for a root that is a dict. -/
theorem snapshotJsonValue_of_root (hroot : d.root = .ref root)
    (hobject : d.heap[root]? = some object) (hkind : isContainer object = true)
    (hdict : isDict d.heap d.root = true) :
    ∃ outcome, snapshotJsonValue d = some outcome ∧ ((∃ p, outcome = .ok p) ↔ Clonable d) ∧
      ∀ p, outcome = .ok p → CopyOf d p.1 p.2 := by
  have hfilter : d.heap[root]?.filter isContainer = some object :=
    Option.filter_eq_some_iff.mpr ⟨hobject, hkind⟩
  cases hchildren : jsonChildren object with
  | error error =>
    refine ⟨.error error, ?_, ⟨?_, ?_⟩, ?_⟩
    · simp only [snapshotJsonValue, hroot, hfilter, hchildren]
    · rintro ⟨p, hp⟩
      cases hp
    · intro hclonable
      obtain ⟨found, hfound, hplain⟩ := hclonable.plain root ⟨root, hroot, .refl⟩
      rw [hobject] at hfound
      cases hfound
      exact absurd hplain (not_plain_of_children hchildren)
    · rintro p hp
      cases hp
  | ok children =>
    obtain ⟨last, result, hlast, hpass, hrun⟩ :=
      descends.ends (snapshotting_start hobject hkind hchildren)
        (Nat.lt_succ_of_le (turnsLeft_start hobject hchildren).le)
    have hvalue : snapshotJsonValue d =
        some (result.map fun heap => (heap, Value.ref d.heap.length)) := by
      simp only [snapshotJsonValue, hroot, hfilter, hchildren]
      exact Option.map_eq_some_iff.mpr ⟨result, hrun, rfl⟩
    refine ⟨_, hvalue, ?_⟩
    cases result with
    | error error =>
      refine ⟨⟨?_, fun hclonable => absurd hclonable (hlast.copying.raises hroot hpass)⟩, ?_⟩
      · rintro ⟨p, hp⟩
        cases hp
      · rintro p hp
        cases hp
    | ok heap =>
      have hturn := turn_of_clonePass last
      rw [hpass] at hturn
      cases hturn with
      | finished hstack =>
        obtain ⟨hclonable, hcopy⟩ := hlast.copied hstack hroot hdict
        refine ⟨⟨fun _ => hclonable, fun _ => ⟨_, rfl⟩⟩, ?_⟩
        rintro p hp
        cases hp
        exact hcopy

/-- A snapshot comes to an end. It is made exactly of the documents that are JSON all the way down,
and it is a new graph with the same tree. -/
theorem json_clone (d : Document) : ∃ outcome, snapshotJsonDocument d = some outcome ∧
    ((∃ heap copy, outcome = .ok (heap, copy)) ↔ Clonable d) ∧
    ∀ heap copy, outcome = .ok (heap, copy) → CopyOf d heap copy := by
  by_cases hdict : isDict d.heap d.root = true
  · obtain ⟨root, entries, hroot, hobject⟩ := exists_of_isDict hdict
    obtain ⟨outcome, hvalue, hiff, hcopy⟩ := snapshotJsonValue_of_root hroot hobject rfl hdict
    have hdocument : snapshotJsonDocument d =
        some (outcome.bind fun p => requireObject p.1 p.2) := by
      rw [snapshotJsonDocument, requireObject, if_pos hdict, hvalue]
      rfl
    -- The copy of a dict is a dict.
    have hsame : (outcome.bind fun p => requireObject p.1 p.2) = outcome := by
      cases outcome with
      | error error => rfl
      | ok p => exact if_pos (hcopy p rfl).dict
    refine ⟨outcome, hsame ▸ hdocument, ?_, fun heap copy => hcopy (heap, copy)⟩
    rw [← hiff]
    exact ⟨fun ⟨heap, copy, h⟩ => ⟨(heap, copy), h⟩, fun ⟨p, h⟩ => ⟨p.1, p.2, h⟩⟩
  · refine ⟨.error notAnObject, ?_, ⟨?_, fun hclonable => absurd hclonable.dict hdict⟩, ?_⟩
    · rw [snapshotJsonDocument, requireObject, if_neg hdict]
    · rintro ⟨heap, copy, h⟩
      cases h
    · rintro heap copy h
      cases h

end ResearchOs.Internal
