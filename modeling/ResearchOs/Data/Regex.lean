import Mathlib.Computability.Language

/-! Regular expressions over character classes, matched by derivatives. -/

/-- A character class: the ranges it lists, or everything else. -/
structure CharClass where
  ranges : List (Char × Char)
  negated : Bool

def CharClass.contains (k : CharClass) (c : Char) : Bool :=
  (k.ranges.any fun r => decide (r.1 ≤ c) && decide (c ≤ r.2)) != k.negated

inductive Regex where
  | empty
  | epsilon
  | chars (k : CharClass)
  | alt (a b : Regex)
  | seq (a b : Regex)
  | star (a : Regex)

namespace Regex

/-- The words a pattern denotes. -/
def language : Regex → Language Char
  | .empty => 0
  | .epsilon => 1
  | .chars k => {w | ∃ c, k.contains c = true ∧ w = [c]}
  | .alt a b => a.language + b.language
  | .seq a b => a.language * b.language
  | .star a => KStar.kstar a.language

def nullable : Regex → Bool
  | .empty => false
  | .epsilon => true
  | .chars _ => false
  | .alt a b => a.nullable || b.nullable
  | .seq a b => a.nullable && b.nullable
  | .star _ => true

/-- Alternation and concatenation that drop the empty pattern as they build. -/
def mkAlt : Regex → Regex → Regex
  | .empty, b => b
  | a, .empty => a
  | a, b => .alt a b

def mkSeq : Regex → Regex → Regex
  | .empty, _ => .empty
  | _, .empty => .empty
  | .epsilon, b => b
  | a, b => .seq a b

def deriv (c : Char) : Regex → Regex
  | .empty => .empty
  | .epsilon => .empty
  | .chars k => if k.contains c then .epsilon else .empty
  | .alt a b => mkAlt (a.deriv c) (b.deriv c)
  | .seq a b =>
    if a.nullable then mkAlt (mkSeq (a.deriv c) b) (b.deriv c) else mkSeq (a.deriv c) b
  | .star a => mkSeq (a.deriv c) (.star a)

def accepts (r : Regex) : List Char → Bool
  | [] => r.nullable
  | c :: w => (r.deriv c).accepts w

/-- The whole string matches. -/
def fullmatch (r : Regex) (s : String) : Bool := r.accepts s.toList

/-! Building blocks. -/

def lit (s : String) : Regex :=
  s.toList.foldr (fun c r => mkSeq (.chars ⟨[(c, c)], false⟩) r) .epsilon

def oneOf (s : String) : Regex := .chars ⟨s.toList.map fun c => (c, c), false⟩

def range (a b : Char) : Regex := .chars ⟨[(a, b)], false⟩

def opt (r : Regex) : Regex := .alt .epsilon r

def plus (r : Regex) : Regex := .seq r (.star r)

def times (r : Regex) : Nat → Regex
  | 0 => .epsilon
  | n + 1 => mkSeq r (times r n)

def upTo (r : Regex) : Nat → Regex
  | 0 => .epsilon
  | n + 1 => opt (.seq r (upTo r n))

def choice (rs : List Regex) : Regex := rs.foldr mkAlt .empty

def chain (rs : List Regex) : Regex := rs.foldr mkSeq .epsilon

theorem language_mkAlt (a b : Regex) : (mkAlt a b).language = a.language + b.language := by
  unfold mkAlt
  split <;> simp [language]

theorem language_mkSeq (a b : Regex) : (mkSeq a b).language = a.language * b.language := by
  unfold mkSeq
  split <;> simp [language]

theorem nullable_iff (r : Regex) : r.nullable = true ↔ [] ∈ r.language := by
  induction r with
  | empty => simp [nullable, language, Language.notMem_zero]
  | epsilon => simp [nullable, language, Language.mem_one]
  | chars k =>
    simp only [nullable, language, Bool.false_eq_true, false_iff]
    rintro ⟨c, _, h⟩
    exact List.cons_ne_nil _ _ h.symm
  | alt a b iha ihb => simp [nullable, language, Language.mem_add, iha, ihb]
  | seq a b iha ihb => simp [nullable, language, Language.mem_mul, iha, ihb]
  | star a _ => simp [nullable, language, Language.nil_mem_kstar]

theorem cons_mem_mul {c : Char} {w : List Char} {l m : Language Char} :
    c :: w ∈ l * m ↔
      (∃ a b, c :: a ∈ l ∧ b ∈ m ∧ a ++ b = w) ∨ ([] ∈ l ∧ c :: w ∈ m) := by
  rw [Language.mem_mul]
  constructor
  · rintro ⟨a, ha, b, hb, h⟩
    cases a with
    | nil => exact Or.inr ⟨ha, by simpa [← h] using hb⟩
    | cons d a =>
      obtain ⟨rfl, rfl⟩ := List.cons_eq_cons.mp h
      exact Or.inl ⟨a, b, ha, hb, rfl⟩
  · rintro (⟨a, b, ha, hb, rfl⟩ | ⟨hl, hm⟩)
    · exact ⟨c :: a, ha, b, hb, rfl⟩
    · exact ⟨[], hl, c :: w, hm, rfl⟩

theorem cons_mem_kstar {c : Char} {w : List Char} {l : Language Char} :
    c :: w ∈ KStar.kstar l ↔ ∃ a b, c :: a ∈ l ∧ b ∈ KStar.kstar l ∧ a ++ b = w := by
  constructor
  · intro h
    obtain ⟨L, h, hL⟩ := Language.mem_kstar_iff_exists_nonempty.mp h
    cases L with
    | nil => simp at h
    | cons y L =>
      obtain ⟨hy, hne⟩ := hL y List.mem_cons_self
      cases y with
      | nil => exact (hne rfl).elim
      | cons d a =>
        obtain ⟨rfl, rfl⟩ := List.cons_eq_cons.mp h
        have htail : ∀ z ∈ L, z ∈ l := fun z hz => (hL z (List.mem_cons_of_mem _ hz)).1
        exact ⟨a, L.flatten, hy, Language.join_mem_kstar htail, rfl⟩
  · rintro ⟨a, b, ha, hb, rfl⟩
    obtain ⟨L, rfl, hL⟩ := Language.mem_kstar.mp hb
    refine Language.mem_kstar.mpr ⟨(c :: a) :: L, rfl, ?_⟩
    intro y hy
    rcases List.mem_cons.mp hy with rfl | hy
    · exact ha
    · exact hL y hy

theorem mem_language_deriv (r : Regex) (c : Char) (w : List Char) :
    w ∈ (r.deriv c).language ↔ c :: w ∈ r.language := by
  induction r generalizing w with
  | empty => simp [deriv, language, Language.notMem_zero]
  | epsilon => simp [deriv, language, Language.notMem_zero, Language.mem_one]
  | chars k =>
    have hc : c :: w ∈ (Regex.chars k).language ↔ k.contains c = true ∧ w = [] := by
      constructor
      · rintro ⟨d, hd, h⟩
        obtain ⟨rfl, rfl⟩ := List.cons_eq_cons.mp h
        exact ⟨hd, rfl⟩
      · rintro ⟨hk, rfl⟩
        exact ⟨c, hk, rfl⟩
    rw [hc, deriv]
    split
    · rename_i hk
      simp [language, Language.mem_one, hk]
    · rename_i hk
      simp [language, Language.notMem_zero, hk]
  | alt a b iha ihb => simp [deriv, language_mkAlt, language, Language.mem_add, iha, ihb]
  | seq a b iha ihb =>
    simp only [deriv, language, cons_mem_mul]
    split
    · rename_i hn
      simp [language_mkAlt, language_mkSeq, Language.mem_add, Language.mem_mul, iha, ihb,
        (nullable_iff a).mp hn]
    · rename_i hn
      have hnil : [] ∉ a.language := fun h => hn ((nullable_iff a).mpr h)
      simp [language_mkSeq, Language.mem_mul, iha, hnil]
  | star a ih =>
    simp only [deriv, language_mkSeq, language, cons_mem_kstar]
    simp [Language.mem_mul, ih]

/-- The matcher decides the language of the pattern. -/
theorem fullmatch_iff (r : Regex) (s : String) :
    r.fullmatch s = true ↔ s.toList ∈ r.language := by
  unfold fullmatch
  generalize s.toList = w
  induction w generalizing r with
  | nil => exact nullable_iff r
  | cons c w ih => rw [accepts, ih, mem_language_deriv]

end Regex
