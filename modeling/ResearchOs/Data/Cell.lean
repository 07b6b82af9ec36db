import Mathlib.Data.List.Basic

/-! A place that holds one encoded value: every call reads it, and may write a value over it. -/
namespace Cell

/-- What a call reads, what it writes, and what the place then holds. -/
structure Effect (α β : Type) where
  loaded : Option α
  written : Option α
  content : Option β

variable {α β ι : Type}

/-- The effects of calls one after the other. -/
def trace (perform : Option β → ι → Effect α β) : Option β → List ι → List (Effect α β)
  | _, [] => []
  | content, i :: rest => perform content i :: trace perform (perform content i).content rest

/-- What the place holds after calls. -/
def after (perform : Option β → ι → Effect α β) (content : Option β) (calls : List ι) : Option β :=
  calls.foldl (fun content i => (perform content i).content) content

def lastWritten : List (Effect α β) → Option α
  | [] => none
  | effect :: rest => (lastWritten rest).or effect.written

/-- Values that are written so that they are read back. -/
structure Codec (α β : Type) where
  encode : α → Option β
  decode : β → Option α
  Valid : α → Prop
  decode_encode : ∀ {a b}, Valid a → encode a = some b → decode b = some a

variable {C : Codec α β} {perform : Option β → ι → Effect α β} {content : Option β} {calls : List ι}
  {effect : Effect α β} {a : α}

/-- A call reads what the place holds, and what it writes is all that changes there. -/
structure Faithful (C : Codec α β) (content : Option β) (effect : Effect α β) : Prop where
  loads : ∀ a, effect.loaded = some a → C.Valid a ∧ ∀ b, content = some b → C.decode b = some a
  writes : ∀ a, effect.written = some a → C.Valid a ∧ ∃ b, C.encode a = some b ∧
    effect.content = some b
  keeps : effect.written = none → effect.content = content

theorem faithful_of_mem_trace (h : ∀ content i, Faithful C content (perform content i))
    (heffect : effect ∈ trace perform content calls) : ∃ before, Faithful C before effect := by
  induction calls generalizing content with
  | nil => cases heffect
  | cons i calls ih =>
    rcases List.mem_cons.mp heffect with rfl | heffect
    · exact ⟨content, h content i⟩
    · exact ih heffect

theorem after_of_lastWritten_none (h : ∀ content i, Faithful C content (perform content i))
    (hnone : lastWritten (trace perform content calls) = none) :
    after perform content calls = content := by
  induction calls generalizing content with
  | nil => rfl
  | cons i calls ih =>
    rw [trace, lastWritten, Option.or_eq_none_iff] at hnone
    exact (ih hnone.1).trans ((h content i).keeps hnone.2)

/-- The place holds the value that was written last. -/
theorem holds_lastWritten (h : ∀ content i, Faithful C content (perform content i))
    (hlast : lastWritten (trace perform content calls) = some a) :
    C.Valid a ∧ ∃ b, C.encode a = some b ∧ after perform content calls = some b := by
  induction calls generalizing content with
  | nil => cases hlast
  | cons i calls ih =>
    rw [trace, lastWritten] at hlast
    cases hrest : lastWritten (trace perform (perform content i).content calls) with
    | some c =>
      rw [hrest, Option.some_or] at hlast
      cases hlast
      exact ih hrest
    | none =>
      rw [hrest, Option.none_or] at hlast
      obtain ⟨hvalid, b, hb, hcontent⟩ := (h content i).writes a hlast
      refine ⟨hvalid, b, hb, ?_⟩
      exact (after_of_lastWritten_none h hrest).trans hcontent

/-- A later call reads the value that was written last. -/
theorem loaded_eq_lastWritten (h : ∀ content i, Faithful C content (perform content i))
    (hlast : lastWritten (trace perform content calls) = some a) {i : ι} {c : α}
    (hloaded : (perform (after perform content calls) i).loaded = some c) : c = a := by
  obtain ⟨hvalid, b, hb, hcontent⟩ := holds_lastWritten h hlast
  have hread := ((h _ i).loads c hloaded).2 b hcontent
  exact Option.some.inj (hread.symm.trans (C.decode_encode hvalid hb))

end Cell
