import Mathlib.Data.List.Infix

/-! Replacing a text by one that its first and last symbols set off. -/
namespace Replace

variable {α : Type} [DecidableEq α] {old text w : List α} {first last : α} {body : List α} {n : Nat}

/-- Occurrences from left to right; the first `n` symbols belong to one already replaced. -/
def replaceFrom (old new : List α) : List α → Nat → List α
  | [], _ => []
  | _ :: cs, n + 1 => replaceFrom old new cs n
  | c :: cs, 0 =>
    if old <+: c :: cs then new ++ replaceFrom old new cs (old.length - 1)
    else c :: replaceFrom old new cs 0

/-- `text.replace(old, new)` of a text that is not empty -/
def replace (old new text : List α) : List α := replaceFrom old new text 0

omit [DecidableEq α] in
/-- What holds no separator lies on one side of it. -/
theorem infix_or_of_separated {a b : List α} (hsep : first ∉ w) (h : w <:+: a ++ first :: b) :
    w <:+: a ∨ w <:+: b := by
  induction a with
  | nil =>
    rcases List.infix_cons_iff.mp h with hprefix | hinfix
    · cases w with
      | nil => exact .inl (List.nil_infix)
      | cons x w =>
        obtain ⟨rfl, -⟩ := List.cons_prefix_cons.mp hprefix
        exact absurd List.mem_cons_self hsep
    · exact .inr hinfix
  | cons x a ih =>
    rcases List.infix_cons_iff.mp h with hprefix | hinfix
    · left
      have hshort : w <+: x :: a := by
        rcases List.prefix_or_prefix_of_prefix hprefix
          (List.prefix_append (x :: a) (first :: b)) with hshort | hlong
        · exact hshort
        · obtain ⟨rest, rfl⟩ := hlong
          cases rest with
          | nil => simp
          | cons y rest =>
            have hrest : y :: rest <+: first :: b :=
              (List.prefix_append_right_inj (x :: a)).mp hprefix
            obtain ⟨rfl, -⟩ := List.cons_prefix_cons.mp hrest
            exact absurd (List.mem_append_right _ List.mem_cons_self) hsep
      exact hshort.isInfix
    · rcases ih hinfix with hleft | hright
      · exact .inl (List.infix_cons hleft)
      · exact .inr hright

/-- A start without the first symbol of a replacement was there before. -/
theorem prefix_of_replaceFrom (hfirst : first ∉ w)
    (h : w <+: replaceFrom old (first :: body) text 0) : w <+: text := by
  induction text generalizing w with
  | nil => exact h
  | cons c text ih =>
    cases w with
    | nil => exact List.nil_prefix
    | cons x w =>
      rw [replaceFrom] at h
      split_ifs at h with hfound
      · obtain ⟨rfl, -⟩ := List.cons_prefix_cons.mp h
        exact absurd List.mem_cons_self hfirst
      · obtain ⟨rfl, hrest⟩ := List.cons_prefix_cons.mp h
        have hbefore := ih (fun hmem => hfirst (List.mem_cons_of_mem _ hmem)) hrest
        exact List.cons_prefix_cons.mpr ⟨rfl, hbefore⟩

/-- What holds neither end of a replacement lies inside one, or stood where nothing is replaced. -/
theorem infix_of_replaceFrom (hw : w ≠ []) (hfirst : first ∉ w) (hlast : last ∉ w)
    (h : w <:+: replaceFrom old (first :: (body ++ [last])) text n) :
    w <:+: body ∨ ∃ rest, rest <:+ text ∧ w <+: rest ∧ ¬ old <+: rest := by
  induction text generalizing n with
  | nil => exact absurd (List.infix_nil.mp h) hw
  | cons c text ih =>
    have hlater : ∀ {m}, w <:+: replaceFrom old (first :: (body ++ [last])) text m →
        w <:+: body ∨ ∃ rest, rest <:+ c :: text ∧ w <+: rest ∧ ¬ old <+: rest := by
      intro m hm
      rcases ih hm with hbody | ⟨rest, hrest, hprefix, hkept⟩
      · exact .inl hbody
      · exact .inr ⟨rest, hrest.trans (List.suffix_cons c text), hprefix, hkept⟩
    cases n with
    | succ n => exact hlater h
    | zero =>
      rw [replaceFrom] at h
      split_ifs at h with hfound
      · have hinner : w <:+: body ++ last :: replaceFrom old (first :: (body ++ [last])) text
            (old.length - 1) := by
          have hsplit : w <:+: [] ++ first :: (body ++ last ::
              replaceFrom old (first :: (body ++ [last])) text (old.length - 1)) := by
            simpa using h
          exact (infix_or_of_separated hfirst hsplit).resolve_left
            fun hnil => hw (List.infix_nil.mp hnil)
        rcases infix_or_of_separated hlast hinner with hbody | hrest
        · exact .inl hbody
        · exact hlater hrest
      · rcases List.infix_cons_iff.mp h with hprefix | hinfix
        · have hhere : w <+: replaceFrom old (first :: (body ++ [last])) (c :: text) 0 := by
            rw [replaceFrom, if_neg hfound]
            exact hprefix
          exact .inr ⟨c :: text, List.suffix_rfl, prefix_of_replaceFrom hfirst hhere, hfound⟩
        · exact hlater hinfix

/-- A replacement puts nothing together that was not there. -/
theorem infix_of_replace (hw : w ≠ []) (hfirst : first ∉ w) (hlast : last ∉ w)
    (h : w <:+: replace old (first :: (body ++ [last])) text) : w <:+: body ∨ w <:+: text := by
  rcases infix_of_replaceFrom hw hfirst hlast h with hbody | ⟨rest, hrest, hhead, -⟩
  · exact .inl hbody
  · exact .inr (hhead.isInfix.trans hrest.isInfix)

/-- What is replaced is gone, if the replacement does not bring it back. -/
theorem not_infix_replace (hold : old ≠ []) (hfirst : first ∉ old) (hlast : last ∉ old)
    (hbody : ¬ old <:+: body) : ¬ old <:+: replace old (first :: (body ++ [last])) text := by
  intro h
  rcases infix_of_replaceFrom hold hfirst hlast h with hinside | ⟨rest, -, hhead, hkept⟩
  · exact hbody hinside
  · exact hkept hhead

end Replace
