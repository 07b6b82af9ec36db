import Mathlib.Data.List.Basic
import Mathlib.Data.List.Count
import Mathlib.Data.List.GetD
import Mathlib.Data.List.Nodup
import Mathlib.Data.List.Perm.Basic
import Mathlib.Data.Int.Notation
import Mathlib.Logic.Function.Basic
import Mathlib.Tactic.Push
import Mathlib.Tactic.Ring

/-! Finite directed graphs, sorted topologically: node by node from a stack, and layer by layer. -/
namespace Layers

variable {α : Type}

/-- A graph without repeated nodes or edges. -/
structure Graph (α : Type) where
  nodes : List α
  targets : α → List α
  nodes_nodup : nodes.Nodup
  targets_nodup : ∀ s, (targets s).Nodup
  source_mem : ∀ {s t}, t ∈ targets s → s ∈ nodes
  target_mem : ∀ {s t}, t ∈ targets s → t ∈ nodes

namespace Graph

variable (G : Graph α)

/-- A path of that many edges ends at the node. -/
inductive Chain : ℕ → α → Prop
  | zero (n : α) : Chain 0 n
  | succ {k : ℕ} {s t : α} (h : Chain k s) (hedge : t ∈ G.targets s) : Chain (k + 1) t

/-- The longest path to the node has that many edges. -/
def Longest (k : ℕ) (n : α) : Prop := G.Chain k n ∧ ¬ G.Chain (k + 1) n

variable {G} {k l : ℕ} {n m : α}

theorem Chain.pred (h : G.Chain (k + 1) n) : ∃ s, G.Chain k s ∧ n ∈ G.targets s := by
  cases h with
  | succ h hedge => exact ⟨_, h, hedge⟩

theorem Chain.shorten (h : G.Chain (k + 1) n) : G.Chain k n := by
  induction k generalizing n with
  | zero => exact .zero n
  | succ k ih =>
    obtain ⟨s, hs, hedge⟩ := h.pred
    exact .succ (ih hs) hedge

theorem Chain.le (h : G.Chain l n) (hkl : k ≤ l) : G.Chain k n := by
  induction l with
  | zero =>
    obtain rfl : k = 0 := by omega
    exact h
  | succ l ih =>
    by_cases hk : k = l + 1
    · exact hk ▸ h
    · exact ih h.shorten (by omega)

theorem Longest.unique (hk : G.Longest k n) (hl : G.Longest l n) : k = l := by
  by_contra hne
  obtain hlt | hlt := Nat.lt_or_gt_of_ne hne
  · exact hk.2 (hl.1.le hlt)
  · exact hl.2 (hk.1.le hlt)

/-- An edge leads to a node with a longer path. -/
theorem Longest.lt (hk : G.Longest k n) (hl : G.Longest l m) (hedge : m ∈ G.targets n) : k < l := by
  by_contra hle
  exact hl.2 (.succ (hk.1.le (by omega)) hedge)

theorem exists_longest (hl : ¬ G.Chain l n) : ∃ i, G.Longest i n := by
  induction l with
  | zero => exact absurd (.zero n) hl
  | succ l ih =>
    by_cases h : G.Chain l n
    · exact ⟨l, h, hl⟩
    · exact ih h

/-- Some node on a bounded path has exactly the length that the path reaches. -/
theorem exists_longest_at (hn : n ∈ G.nodes) (hk : G.Chain k n) (hl : ¬ G.Chain l n) :
    ∃ m ∈ G.nodes, G.Longest k m := by
  induction l generalizing n with
  | zero => exact absurd (.zero n) hl
  | succ l ih =>
    by_cases h : G.Chain (k + 1) n
    · obtain ⟨s, hs, hedge⟩ := h.pred
      exact ih (G.source_mem hedge) hs fun hlong => hl (.succ hlong hedge)
    · exact ⟨n, hn, hk, h⟩

/-! What is finished of a topological order. -/

variable {finished ready : List α} {i : ℕ}

/-- The nodes that may come next: not done themselves, and without an edge from a node that is not
done. -/
def Open (G : Graph α) (finished : List α) (n : α) : Prop :=
  n ∈ G.nodes ∧ n ∉ finished ∧ ∀ s, n ∈ G.targets s → s ∈ finished

/-- A finished node has no edge from a node that is not. -/
def Settled (G : Graph α) (finished : List α) : Prop :=
  ∀ n ∈ finished, n ∈ G.nodes ∧ ∀ s, n ∈ G.targets s → s ∈ finished

theorem Settled.append (hsettled : Settled G finished)
    (hopen : ∀ n ∈ ready, Open G finished n) : Settled G (finished ++ ready) := by
  intro n hn
  obtain hn | hn := List.mem_append.mp hn
  · exact ⟨(hsettled n hn).1, fun s hs => List.mem_append_left _ ((hsettled n hn).2 s hs)⟩
  · exact ⟨(hopen n hn).1, fun s hs => List.mem_append_left _ ((hopen n hn).2.2 s hs)⟩

/-- The nodes to which some path has that many edges are those that come later. -/
def Level (G : Graph α) (i : ℕ) (finished : List α) : Prop :=
  ∀ n, n ∈ finished ↔ n ∈ G.nodes ∧ ¬ G.Chain i n

theorem Level.settled (h : Level G i finished) : Settled G finished := by
  intro n hn
  obtain ⟨hnode, hchain⟩ := (h n).mp hn
  refine ⟨hnode, fun s hs => (h s).mpr ⟨G.source_mem hs, fun hlong => hchain ?_⟩⟩
  exact Chain.shorten (.succ hlong hs)

theorem Level.open_iff (h : Level G i finished) :
    Open G finished n ↔ n ∈ G.nodes ∧ G.Longest i n := by
  constructor
  · rintro ⟨hn, hnot, hpreds⟩
    have hchain : G.Chain i n := by
      by_contra hno
      exact hnot ((h n).mpr ⟨hn, hno⟩)
    refine ⟨hn, hchain, fun hlong => ?_⟩
    obtain ⟨s, hs, hedge⟩ := hlong.pred
    exact ((h s).mp (hpreds s hedge)).2 hs
  · rintro ⟨hn, hchain, hlong⟩
    refine ⟨hn, fun hin => ((h n).mp hin).2 hchain, fun s hs => ?_⟩
    exact (h s).mpr ⟨G.source_mem hs, fun hs' => hlong (.succ hs' hs)⟩

theorem Level.next (h : Level G i finished) (hopen : ∀ n, n ∈ ready ↔ Open G finished n) :
    Level G (i + 1) (finished ++ ready) := by
  intro n
  rw [List.mem_append, h n, hopen n, h.open_iff]
  constructor
  · rintro (⟨hn, hno⟩ | ⟨hn, hlongest⟩)
    · exact ⟨hn, fun hlong => hno hlong.shorten⟩
    · exact ⟨hn, hlongest.2⟩
  · rintro ⟨hn, hno⟩
    by_cases hchain : G.Chain i n
    · exact .inr ⟨hn, hchain, hno⟩
    · exact .inl ⟨hn, hchain⟩

theorem level_zero : Level G 0 [] := by
  intro n
  simp only [List.not_mem_nil, false_iff, not_and, not_not]
  exact fun _ => .zero n

/-- No path is as long as the nodes are many. -/
def Acyclic (G : Graph α) : Prop := ∀ n ∈ G.nodes, ¬ G.Chain G.nodes.length n

variable (G) [DecidableEq α]

/-! The count of the edges that still lead to a node. -/

/-- The edges to the node from the nodes that are not done. -/
def indegree (finished : List α) (t : α) : ℤ :=
  (G.nodes.countP fun s => decide (s ∉ finished) && decide (t ∈ G.targets s) : ℕ)

/-- An edge to each of the targets is gone; a target that lost its last edge is ready. -/
def release (counts : α → ℤ) (ready : List α) : List α → (α → ℤ) × List α
  | [] => (counts, ready)
  | t :: ts =>
    release (Function.update counts t (counts t - 1))
      (if counts t - 1 = 0 then ready ++ [t] else ready) ts

theorem release_counts (counts : α → ℤ) (ready ts : List α) :
    (release counts ready ts).1 = fun t => counts t - (ts.count t : ℕ) := by
  induction ts generalizing counts ready with
  | nil => simp [release]
  | cons t ts ih =>
    rw [release, ih]
    funext u
    by_cases hu : u = t
    · subst hu
      simp only [Function.update_self, List.count_cons_self]
      push_cast
      ring
    · rw [Function.update_of_ne hu, List.count_cons_of_ne (Ne.symm hu)]

/-- While no count falls below zero, those that reach zero become ready once. -/
theorem release_ready (counts : α → ℤ) (ready ts : List α)
    (hcounts : ∀ t, (ts.count t : ℤ) ≤ counts t) :
    ∃ added : List α, (release counts ready ts).2 = ready ++ added ∧ added.Nodup ∧
      ∀ t, t ∈ added ↔ t ∈ ts ∧ counts t = ts.count t := by
  induction ts generalizing counts ready with
  | nil => exact ⟨[], by simp [release], List.nodup_nil, by simp⟩
  | cons t ts ih =>
    have hrest : ∀ u, (ts.count u : ℤ) ≤ Function.update counts t (counts t - 1) u := by
      intro u
      have hu := hcounts u
      by_cases hsame : u = t
      · subst hsame
        rw [List.count_cons_self] at hu
        rw [Function.update_self]
        push_cast at hu
        omega
      · rw [List.count_cons_of_ne (Ne.symm hsame)] at hu
        rwa [Function.update_of_ne hsame]
    obtain ⟨added, hready, hnodup, hmem⟩ :=
      ih (Function.update counts t (counts t - 1)) (if counts t - 1 = 0 then ready ++ [t] else ready)
        hrest
    have ht : t ∈ added ↔ t ∈ ts ∧ counts t - 1 = ts.count t := by
      rw [hmem t, Function.update_self]
    have hother : ∀ u, u ≠ t → (u ∈ added ↔ u ∈ ts ∧ counts u = ts.count u) := by
      intro u hu
      rw [hmem u, Function.update_of_ne hu]
    have hbound := hcounts t
    rw [List.count_cons_self] at hbound
    push_cast at hbound
    by_cases hzero : counts t - 1 = 0
    · -- The last edge to `t` is gone, so no further edge leads to it.
      have hcount : ts.count t = 0 := by omega
      have hnot : t ∉ ts := List.count_eq_zero.mp hcount
      refine ⟨t :: added, ?_, ?_, ?_⟩
      · rw [release, hready, if_pos hzero]
        simp
      · rw [List.nodup_cons]
        exact ⟨fun h => hnot (ht.mp h).1, hnodup⟩
      · intro u
        by_cases hu : u = t
        · subst hu
          simp only [List.mem_cons, true_or, true_and, List.count_cons_self, hcount, true_iff]
          push_cast
          omega
        · rw [List.mem_cons, hother u hu, List.mem_cons, List.count_cons_of_ne (Ne.symm hu)]
          simp [hu]
    · refine ⟨added, ?_, hnodup, ?_⟩
      · rw [release, hready, if_neg hzero]
      · intro u
        by_cases hu : u = t
        · subst hu
          rw [ht, List.count_cons_self]
          push_cast
          constructor
          · rintro ⟨-, h⟩
            exact ⟨List.mem_cons_self, by omega⟩
          · rintro ⟨-, h⟩
            refine ⟨?_, by omega⟩
            by_contra hnot
            have hcount : ts.count u = 0 := List.count_eq_zero.mpr hnot
            omega
        · rw [hother u hu, List.mem_cons, List.count_cons_of_ne (Ne.symm hu)]
          simp [hu]

variable {G}

theorem indegree_eq_zero {t : α} :
    G.indegree finished t = 0 ↔ ∀ s, t ∈ G.targets s → s ∈ finished := by
  unfold indegree
  rw [Int.natCast_eq_zero, List.countP_eq_zero]
  constructor
  · intro h s hs
    by_contra hnot
    exact h s (G.source_mem hs) (by simp [hnot, hs])
  · intro h s _ hboth
    simp only [Bool.and_eq_true, decide_eq_true_eq] at hboth
    exact hboth.1 (h s hboth.2)

theorem open_iff (hn : n ∈ G.nodes) (hnot : n ∉ finished) :
    Open G finished n ↔ G.indegree finished n = 0 := by
  rw [indegree_eq_zero]
  exact ⟨fun h => h.2.2, fun h => ⟨hn, hnot, h⟩⟩

/-- The targets of some distinct nodes, counted. -/
theorem count_targets (ready : List α) (t : α) :
    (ready.flatMap G.targets).count t = ready.countP fun s => decide (t ∈ G.targets s) := by
  induction ready with
  | nil => rfl
  | cons s ready ih =>
    rw [List.flatMap_cons, List.count_append, ih]
    by_cases hs : t ∈ G.targets s
    · rw [List.count_eq_one_of_mem (G.targets_nodup s) hs, List.countP_cons_of_pos (by simpa using hs)]
      omega
    · rw [List.count_eq_zero.mpr hs, List.countP_cons_of_neg (by simpa using hs), Nat.zero_add]

/-- Finishing some distinct nodes takes their edges away. -/
theorem indegree_append (hready : ready.Nodup)
    (hmem : ∀ s ∈ ready, s ∈ G.nodes ∧ s ∉ finished) (t : α) :
    G.indegree (finished ++ ready) t =
      G.indegree finished t - ((ready.flatMap G.targets).count t : ℕ) := by
  have hperm : (G.nodes.filter fun s => decide (s ∈ ready)).Perm ready := by
    rw [List.perm_ext_iff_of_nodup (G.nodes_nodup.filter _) hready]
    intro s
    rw [List.mem_filter, decide_eq_true_eq]
    exact ⟨fun h => h.2, fun h => ⟨(hmem s h).1, h⟩⟩
  have hsplit : (G.nodes.countP fun s => decide (s ∉ finished) && decide (t ∈ G.targets s)) =
      (ready.countP fun s => decide (t ∈ G.targets s)) +
        G.nodes.countP fun s => decide (s ∉ finished ++ ready) && decide (t ∈ G.targets s) := by
    rw [List.countP_eq_countP_filter_add G.nodes _ fun s => decide (s ∈ ready), hperm.countP_eq,
      List.countP_filter]
    congr 1
    · refine List.countP_congr fun s hs => ?_
      simp [(hmem s hs).2]
    · refine List.countP_congr fun s _ => ?_
      simp only [List.mem_append, Bool.and_eq_true, decide_eq_true_eq, Bool.not_eq_eq_eq_not,
        Bool.not_true, decide_eq_false_iff_not, not_or]
      tauto
  unfold indegree
  rw [count_targets, hsplit]
  push_cast
  ring

/-- What becomes ready once some ready nodes are finished. -/
theorem release_open (hsettled : Settled G finished) (hready : ready.Nodup)
    (hopen : ∀ n ∈ ready, Open G finished n) (rest : List α) :
    ∃ added : List α,
      (release (G.indegree finished) rest (ready.flatMap G.targets)) =
        (G.indegree (finished ++ ready), rest ++ added) ∧ added.Nodup ∧
        ∀ n, n ∈ added ↔ Open G (finished ++ ready) n ∧ ¬ Open G finished n := by
  have hmem : ∀ s ∈ ready, s ∈ G.nodes ∧ s ∉ finished :=
    fun s hs => ⟨(hopen s hs).1, (hopen s hs).2.1⟩
  have hnonneg : ∀ t, 0 ≤ G.indegree (finished ++ ready) t := by
    intro t
    unfold indegree
    omega
  obtain ⟨added, hadded, hnodup, hiff⟩ := release_ready (G.indegree finished) rest
    (ready.flatMap G.targets) fun t => by
      have hzero := hnonneg t
      rw [indegree_append hready hmem t] at hzero
      omega
  refine ⟨added, Prod.ext ?_ hadded, hnodup, fun n => ?_⟩
  · rw [release_counts]
    exact funext fun t => (indegree_append hready hmem t).symm
  have hcounts := indegree_append hready hmem n
  rw [hiff n]
  constructor
  · rintro ⟨htarget, hcount⟩
    obtain ⟨s, hs, hedge⟩ := List.mem_flatMap.mp htarget
    have hnot : n ∉ finished ++ ready := by
      intro hin
      obtain hin | hin := List.mem_append.mp hin
      · exact (hmem s hs).2 ((hsettled n hin).2 s hedge)
      · exact (hmem s hs).2 ((hopen n hin).2.2 s hedge)
    refine ⟨(open_iff (G.target_mem hedge) hnot).mpr (by omega), fun hno => ?_⟩
    exact (hmem s hs).2 (hno.2.2 s hedge)
  · rintro ⟨h, hno⟩
    have hzero := indegree_eq_zero.mpr h.2.2
    refine ⟨?_, by omega⟩
    by_contra hnone
    refine hno ⟨h.1, fun hin => h.2.1 (List.mem_append_left _ hin), fun s hs => ?_⟩
    obtain hin | hin := List.mem_append.mp (h.2.2 s hs)
    · exact hin
    · exact absurd (List.mem_flatMap.mpr ⟨s, hin, hs⟩) hnone

/-! Layer by layer. -/

/-- `sort` puts the ready nodes into the order of their layer. -/
def layersFrom (G : Graph α) (sort : List α → List α) :
    ℕ → (α → ℤ) → List α → List (List α)
  | 0, _, _ => []
  | fuel + 1, counts, ready =>
    if ready = [] then []
    else
      let released := release counts [] (ready.flatMap G.targets)
      ready :: layersFrom G sort fuel released.1 (sort released.2)

/-- The layers, from the nodes that no edge leads to. -/
def layers (G : Graph α) (sort : List α → List α) : List (List α) :=
  layersFrom G sort (G.nodes.length + 1) (G.indegree [])
    ((sort G.nodes).filter fun n => decide (G.indegree [] n = 0))

/-- From layer `i` on, the layers are the nodes by the length of their longest path. -/
theorem mem_layersFrom {sort : List α → List α} (hsort : ∀ xs, (sort xs).Perm xs) {fuel : ℕ}
    (hlevel : Level G i finished) (hready : ready.Nodup)
    (hopen : ∀ n, n ∈ ready ↔ Open G finished n) (hfuel : ∀ n ∈ G.nodes, ¬ G.Chain (i + fuel) n) :
    (∀ j n, n ∈ (layersFrom G sort fuel (G.indegree finished) ready).getD j [] ↔
      n ∈ G.nodes ∧ G.Longest (i + j) n) ∧
      ∀ layer ∈ layersFrom G sort fuel (G.indegree finished) ready, layer ≠ [] ∧ layer.Nodup := by
  induction fuel generalizing i finished ready with
  | zero =>
    refine ⟨fun j n => ?_, by simp [layersFrom]⟩
    simp only [layersFrom, List.getD_nil, List.not_mem_nil, false_iff, not_and]
    intro hn hlongest
    exact hfuel n hn (hlongest.1.le (by omega))
  | succ fuel ih =>
    rw [layersFrom]
    by_cases hnil : ready = []
    · rw [if_pos hnil]
      refine ⟨fun j n => ?_, by simp⟩
      simp only [List.getD_nil, List.not_mem_nil, false_iff, not_and]
      intro hn hlongest
      obtain ⟨m, hm, hexact⟩ := exists_longest_at hn (hlongest.1.le (Nat.le_add_right i j)) (hfuel n hn)
      have hin := (hopen m).mpr (hlevel.open_iff.mpr ⟨hm, hexact⟩)
      rw [hnil] at hin
      exact List.not_mem_nil hin
    · rw [if_neg hnil]
      obtain ⟨added, hadded, hnodup, hiff⟩ :=
        release_open hlevel.settled hready (fun n hn => (hopen n).mp hn) []
      have hopen' : ∀ n, n ∈ sort added ↔ Open G (finished ++ ready) n := by
        intro n
        rw [(hsort added).mem_iff, hiff n, and_iff_left_iff_imp]
        exact fun h hno => h.2.1 (List.mem_append_right _ ((hopen n).mpr hno))
      rw [hadded]
      obtain ⟨hmem, hshape⟩ := ih (hlevel.next hopen) ((hsort added).nodup_iff.mpr hnodup) hopen'
        fun n hn hlong => hfuel n hn (hlong.le (by omega))
      constructor
      · intro j n
        cases j with
        | zero =>
          rw [List.getD_cons_zero, hopen n, hlevel.open_iff]
          rfl
        | succ j =>
          rw [List.getD_cons_succ, List.nil_append, hmem j n, Nat.add_right_comm, Nat.add_assoc]
      · intro layer hlayer
        obtain rfl | hlayer := List.mem_cons.mp hlayer
        · exact ⟨hnil, hready⟩
        · exact hshape layer hlayer

/-- The layers of an acyclic graph are its nodes by the length of their longest path. -/
theorem Acyclic.layers (h : Acyclic G) {sort : List α → List α}
    (hsort : ∀ xs, (sort xs).Perm xs) :
    (∀ i n, n ∈ (G.layers sort).getD i [] ↔ n ∈ G.nodes ∧ G.Longest i n) ∧
      ∀ layer ∈ G.layers sort, layer ≠ [] ∧ layer.Nodup := by
  have hopen : ∀ n, n ∈ ((sort G.nodes).filter fun n => decide (G.indegree [] n = 0)) ↔
      Open G [] n := by
    intro n
    rw [List.mem_filter, (hsort G.nodes).mem_iff, decide_eq_true_eq]
    constructor
    · rintro ⟨hn, hzero⟩
      exact (Graph.open_iff hn List.not_mem_nil).mpr hzero
    · intro hn
      exact ⟨hn.1, (Graph.open_iff hn.1 List.not_mem_nil).mp hn⟩
  have hnodup := ((hsort G.nodes).nodup_iff.mpr G.nodes_nodup).filter
    fun n => decide (G.indegree [] n = 0)
  have hfuel : ∀ n ∈ G.nodes, ¬ G.Chain (0 + (G.nodes.length + 1)) n :=
    fun n hn hlong => h n hn (hlong.le (by omega))
  obtain ⟨hmem, hshape⟩ := mem_layersFrom hsort level_zero hnodup hopen hfuel
  refine ⟨fun i n => ?_, hshape⟩
  have hin := hmem i n
  rwa [Nat.zero_add] at hin

/-- Every node is in one layer, once. -/
theorem Acyclic.layers_perm (h : Acyclic G) {sort : List α → List α}
    (hsort : ∀ xs, (sort xs).Perm xs) : (G.layers sort).flatten.Perm G.nodes := by
  obtain ⟨hmem, hshape⟩ := h.layers hsort
  have hget : ∀ i (hi : i < (G.layers sort).length) n,
      n ∈ (G.layers sort)[i] ↔ n ∈ G.nodes ∧ G.Longest i n := by
    intro i hi n
    rw [← hmem i n, List.getD_eq_getElem _ _ hi]
  have hnodup : (G.layers sort).flatten.Nodup := by
    rw [List.nodup_flatten]
    refine ⟨fun layer hlayer => (hshape layer hlayer).2, ?_⟩
    rw [List.pairwise_iff_getElem]
    intro i j hi hj hij n hni hnj
    have hsame := ((hget i hi n).mp hni).2.unique ((hget j hj n).mp hnj).2
    omega
  rw [List.perm_ext_iff_of_nodup hnodup G.nodes_nodup]
  intro n
  rw [List.mem_flatten]
  constructor
  · rintro ⟨layer, hlayer, hn⟩
    obtain ⟨i, hi, rfl⟩ := List.mem_iff_getElem.mp hlayer
    exact ((hget i hi n).mp hn).1
  · intro hn
    obtain ⟨i, hi⟩ := exists_longest (h n hn)
    have hin := (hmem i n).mpr ⟨hn, hi⟩
    refine ⟨_, ?_, hin⟩
    by_cases hlt : i < (G.layers sort).length
    · rw [List.getD_eq_getElem _ _ hlt]
      exact List.getElem_mem hlt
    · rw [List.getD_eq_default _ _ (not_lt.mp hlt)] at hin
      exact absurd hin List.not_mem_nil

/-- What sorting makes of the nodes holds of each layer. -/
theorem layers_pairwise {R : α → α → Prop} {sort : List α → List α}
    (hsort : ∀ xs, (sort xs).Pairwise R) : ∀ layer ∈ G.layers sort, layer.Pairwise R := by
  have hfrom : ∀ fuel counts ready, ready.Pairwise R →
      ∀ layer ∈ layersFrom G sort fuel counts ready, layer.Pairwise R := by
    intro fuel
    induction fuel with
    | zero => simp [layersFrom]
    | succ fuel ih =>
      intro counts ready hready layer hlayer
      rw [layersFrom] at hlayer
      split_ifs at hlayer
      · exact absurd hlayer List.not_mem_nil
      · obtain rfl | hlayer := List.mem_cons.mp hlayer
        · exact hready
        · exact ih _ _ (hsort _) layer hlayer
  exact hfrom _ _ _ ((hsort G.nodes).filter _)

/-- The layers depend on the nodes and edges, not on the order in which they are listed. -/
theorem Acyclic.layers_eq {R : α → α → Prop} {sort : List α → List α} {H : Graph α}
    (hG : Acyclic G) (hH : Acyclic H) (hsort : ∀ xs, (sort xs).Perm xs)
    (hsorted : ∀ xs, (sort xs).Pairwise R) (hanti : ∀ a b, R a b → R b a → a = b)
    (hnodes : ∀ n, n ∈ G.nodes ↔ n ∈ H.nodes)
    (hlongest : ∀ i n, G.Longest i n ↔ H.Longest i n) : G.layers sort = H.layers sort := by
  obtain ⟨hmemG, hshapeG⟩ := hG.layers hsort
  obtain ⟨hmemH, hshapeH⟩ := hH.layers hsort
  have hget : ∀ i n, n ∈ (G.layers sort).getD i [] ↔ n ∈ (H.layers sort).getD i [] := by
    intro i n
    rw [hmemG, hmemH, hnodes, hlongest]
  -- Layers are not empty, so the shorter list ends where the longer one does.
  have hlength : ∀ {A B : Graph α}, (∀ layer ∈ A.layers sort, layer ≠ [] ∧ layer.Nodup) →
      (∀ i n, n ∈ (A.layers sort).getD i [] ↔ n ∈ (B.layers sort).getD i []) →
      (A.layers sort).length ≤ (B.layers sort).length := by
    intro A B hshape hsame
    by_contra hlt
    have hi : (B.layers sort).length < (A.layers sort).length := by omega
    obtain ⟨n, hn⟩ := List.exists_mem_of_ne_nil _ (hshape _ (List.getElem_mem hi)).1
    have hin := (hsame (B.layers sort).length n).mp (by rwa [List.getD_eq_getElem _ _ hi])
    rw [List.getD_eq_default _ _ le_rfl] at hin
    exact List.not_mem_nil hin
  refine List.ext_getElem (le_antisymm (hlength hshapeG hget)
    (hlength hshapeH fun i n => (hget i n).symm)) fun i hi hi' => ?_
  have hperm : ((G.layers sort)[i]).Perm ((H.layers sort)[i]) := by
    rw [List.perm_ext_iff_of_nodup (hshapeG _ (List.getElem_mem hi)).2
      (hshapeH _ (List.getElem_mem hi')).2]
    intro n
    rw [← List.getD_eq_getElem _ [] hi, ← List.getD_eq_getElem _ [] hi']
    exact hget i n
  exact hperm.eq_of_pairwise (fun a b _ _ => hanti a b)
    (layers_pairwise hsorted _ (List.getElem_mem hi))
    (layers_pairwise hsorted _ (List.getElem_mem hi'))

/-! Node by node. -/

/-- The node that became ready last is finished next; the number of the finished nodes. -/
def visit (G : Graph α) : ℕ → (α → ℤ) → List α → ℕ → ℕ
  | 0, _, _, visited => visited
  | fuel + 1, counts, ready, visited =>
    match ready.getLast? with
    | none => visited
    | some current =>
      let released := release counts ready.dropLast (G.targets current)
      visit G fuel released.1 released.2 (visited + 1)

/-- A path to a finished node is not as long as the finished nodes are many. -/
def Short (G : Graph α) (finished : List α) : Prop :=
  ∀ n ∈ finished, ¬ G.Chain finished.length n

omit [DecidableEq α] in
theorem Short.concat (h : Short G finished) (hopen : Open G finished n) :
    Short G (finished ++ [n]) := by
  intro m hm hlong
  rw [List.length_append, List.length_singleton] at hlong
  obtain hm | hm := List.mem_append.mp hm
  · exact h m hm hlong.shorten
  · obtain rfl := List.mem_singleton.mp hm
    obtain ⟨s, hs, hedge⟩ := hlong.pred
    exact h s (hopen.2.2 s hedge) hs

/-- The finished nodes are distinct, and short paths lead to them. -/
theorem visit_finished {fuel : ℕ} (hsettled : Settled G finished) (hshort : Short G finished)
    (hnodup : finished.Nodup) (hready : ready.Nodup)
    (hopen : ∀ n, n ∈ ready ↔ Open G finished n) :
    ∃ final : List α, visit G fuel (G.indegree finished) ready finished.length = final.length ∧
      final.Nodup ∧ Settled G final ∧ Short G final := by
  induction fuel generalizing finished ready with
  | zero => exact ⟨finished, rfl, hnodup, hsettled, hshort⟩
  | succ fuel ih =>
    obtain rfl | ⟨rest, current, rfl⟩ := List.eq_nil_or_concat ready
    · exact ⟨finished, rfl, hnodup, hsettled, hshort⟩
    rw [List.concat_eq_append] at hready hopen ⊢
    have hcurrent : Open G finished current := (hopen current).mp (by simp)
    have honly : ∀ n ∈ [current], Open G finished n := by
      intro n hn
      obtain rfl := List.mem_singleton.mp hn
      exact hcurrent
    obtain ⟨added, hadded, hadds, hiff⟩ :=
      release_open hsettled (List.nodup_singleton current) honly rest
    rw [List.flatMap_singleton] at hadded
    rw [visit, List.getLast?_concat, List.dropLast_concat]
    simp only [hadded]
    have hlength : finished.length + 1 = (finished ++ [current]).length := by simp
    have hrest : rest.Nodup ∧ current ∉ rest := by
      rw [List.nodup_append] at hready
      exact ⟨hready.1, fun hin => hready.2.2 current hin current (by simp) rfl⟩
    have hin : ∀ n, n ∈ rest ↔ Open G finished n ∧ n ≠ current := by
      intro n
      rw [← hopen n, List.mem_append, List.mem_singleton]
      constructor
      · intro hn
        exact ⟨.inl hn, fun heq => hrest.2 (heq ▸ hn)⟩
      · rintro ⟨hn | hn, hne⟩
        · exact hn
        · exact absurd hn hne
    have hopen' : ∀ n, n ∈ rest ++ added ↔ Open G (finished ++ [current]) n := by
      intro n
      rw [List.mem_append, hin n, hiff n]
      constructor
      · rintro (⟨hn, hne⟩ | ⟨hn, -⟩)
        · refine ⟨hn.1, ?_, fun s hs => List.mem_append_left _ (hn.2.2 s hs)⟩
          simp [hn.2.1, hne]
        · exact hn
      · intro hn
        by_cases hbefore : Open G finished n
        · exact .inl ⟨hbefore, fun heq => hn.2.1 (by simp [heq])⟩
        · exact .inr ⟨hn, hbefore⟩
    have hready' : (rest ++ added).Nodup := by
      rw [List.nodup_append]
      refine ⟨hrest.1, hadds, fun a ha b hb hab => ?_⟩
      exact ((hiff b).mp hb).2 (hab ▸ ((hin a).mp ha).1)
    rw [hlength]
    refine ih (hsettled.append honly) (hshort.concat hcurrent) ?_ hready' hopen'
    rw [List.nodup_append]
    refine ⟨hnodup, List.nodup_singleton _, fun a ha b hb hab => ?_⟩
    obtain rfl := List.mem_singleton.mp hb
    exact hcurrent.2.1 (hab ▸ ha)

/-- A graph all of whose nodes are finished has no cycle. -/
theorem acyclic_of_visit {fuel : ℕ}
    (h : visit G fuel (G.indegree []) (G.nodes.filter fun n => decide (G.indegree [] n = 0)) 0 =
      G.nodes.length) : Acyclic G := by
  have hopen : ∀ n, n ∈ (G.nodes.filter fun n => decide (G.indegree [] n = 0)) ↔ Open G [] n := by
    intro n
    rw [List.mem_filter, decide_eq_true_eq]
    constructor
    · rintro ⟨hn, hzero⟩
      exact (Graph.open_iff hn List.not_mem_nil).mpr hzero
    · intro hn
      exact ⟨hn.1, (Graph.open_iff hn.1 List.not_mem_nil).mp hn⟩
  have hsettled : Settled G [] := fun n hn => absurd hn List.not_mem_nil
  have hshort : Short G [] := fun n hn => absurd hn List.not_mem_nil
  obtain ⟨final, hvisit, hnodup, hsettled, hshort⟩ :=
    visit_finished hsettled hshort List.nodup_nil (G.nodes_nodup.filter _) hopen
  have hlength : final.length = G.nodes.length := hvisit.symm.trans h
  have hsub : final ⊆ G.nodes := fun n hn => (hsettled n hn).1
  have hperm : final.Perm G.nodes := (List.subperm_of_subset hnodup hsub).perm_of_length_le hlength.ge
  intro n hn hlong
  exact hshort n (hperm.mem_iff.mpr hn) (hlength ▸ hlong)

end Graph

end Layers
