import Mathlib.Data.List.Basic
import Mathlib.Data.List.Infix

/-! Server-sent events: frames of fields, and a reader that takes them in character by character. -/
namespace EventStream

structure FrameLine where
  name : List Char
  value : List Char
  deriving DecidableEq

def FrameLine.text (field : FrameLine) : List Char := field.name ++ ':' :: ' ' :: (field.value ++ ['\n'])

/-- The fields of a frame, each on its line, and an empty line. -/
def frameText (fields : List FrameLine) : List Char := fields.flatMap FrameLine.text ++ ['\n']

structure Message where
  type : List Char
  data : List Char
  id : List Char
  deriving DecidableEq

/-- What a reader remembers between two characters, and the messages that it has handed on. -/
structure Reader where
  id : List Char
  type : List Char
  data : List (List Char)
  line : List Char
  returned : Bool
  messages : List Message
  deriving DecidableEq

/-- A line cut at its first colon; one blank after the colon is not part of the value. -/
def cutLine (line : List Char) : FrameLine :=
  match line.dropWhile (· ≠ ':') with
  | [] => ⟨line, []⟩
  | _ :: ' ' :: value => ⟨line.takeWhile (· ≠ ':'), value⟩
  | _ :: value => ⟨line.takeWhile (· ≠ ':'), value⟩

namespace Reader

def start (id : List Char) : Reader := ⟨id, [], [], [], false, []⟩

def field (r : Reader) (f : FrameLine) : Reader :=
  if f.name = "event".toList then { r with type := f.value }
  else if f.name = "data".toList then { r with data := r.data ++ [f.value] }
  else if f.name = "id".toList then
    if Char.ofNat 0 ∈ f.value then r else { r with id := f.value }
  else r

def dispatch (r : Reader) : Reader :=
  if r.data = [] then { r with type := [] }
  else
    { r with
      type := []
      data := []
      messages := r.messages ++
        [⟨if r.type = [] then "message".toList else r.type, ['\n'].intercalate r.data, r.id⟩] }

def endLine (r : Reader) : Reader :=
  if r.line = [] then r.dispatch else { r with line := [] }.field (cutLine r.line)

def feed (r : Reader) (c : Char) : Reader :=
  if c = '\n' then
    if r.returned then { r with returned := false } else r.endLine
  else if c = '\r' then { r.endLine with returned := true }
  else { r with line := r.line ++ [c], returned := false }

def read (r : Reader) (text : List Char) : Reader := text.foldl feed r

/-- The reader at the start of a line. -/
structure AtLine (r : Reader) : Prop where
  line : r.line = []
  returned : r.returned = false

/-- A frame as a whole. -/
def take (r : Reader) (fields : List FrameLine) : Reader := (fields.foldl field r).dispatch

end Reader

/-- The text has no end of a line. -/
def OneLine (text : List Char) : Prop := ∀ c ∈ text, c ≠ '\n' ∧ c ≠ '\r'

def isOneLine (text : List Char) : Bool := text.all fun c => c != '\n' && c != '\r'

theorem isOneLine_iff {text : List Char} : isOneLine text = true ↔ OneLine text := by
  simp [isOneLine, OneLine]

instance (text : List Char) : Decidable (OneLine text) := decidable_of_iff _ isOneLine_iff

@[simp] theorem oneLine_nil : OneLine [] := fun _ hc => absurd hc List.not_mem_nil

@[simp] theorem oneLine_cons {c : Char} {cs : List Char} :
    OneLine (c :: cs) ↔ (c ≠ '\n' ∧ c ≠ '\r') ∧ OneLine cs := by
  simp [OneLine]

@[simp] theorem oneLine_append {cs ds : List Char} :
    OneLine (cs ++ ds) ↔ OneLine cs ∧ OneLine ds := by
  constructor
  · intro h
    exact ⟨fun c hc => h c (List.mem_append_left ds hc), fun c hc => h c (List.mem_append_right cs hc)⟩
  · rintro ⟨hcs, hds⟩ c hc
    rcases List.mem_append.mp hc with hc | hc
    · exact hcs c hc
    · exact hds c hc

structure FrameLine.Clean (f : FrameLine) : Prop where
  colon : ':' ∉ f.name
  name : OneLine f.name
  value : OneLine f.value

theorem FrameLine.Clean.body {f : FrameLine} (hf : f.Clean) : OneLine (f.name ++ ':' :: ' ' :: f.value) := by
  simp only [oneLine_append, oneLine_cons]
  exact ⟨hf.name, by decide, by decide, hf.value⟩

theorem FrameLine.text_eq (f : FrameLine) : f.text = (f.name ++ ':' :: ' ' :: f.value) ++ ['\n'] := by
  simp [FrameLine.text]

/-! Lines. -/

namespace Reader

variable {r : Reader} {f : FrameLine} {text more : List Char} {fields : List FrameLine}

theorem read_append : r.read (text ++ more) = (r.read text).read more := List.foldl_append

/-- A field is taken in between two lines and hands nothing on. -/
theorem field_keeps : (r.field f).line = r.line ∧ (r.field f).returned = r.returned ∧
    (r.field f).messages = r.messages := by
  unfold field
  split_ifs <;> exact ⟨rfl, rfl, rfl⟩

theorem field_line : (r.field f).line = r.line := field_keeps.1

theorem field_returned : (r.field f).returned = r.returned := field_keeps.2.1

@[simp] theorem field_messages : (r.field f).messages = r.messages := field_keeps.2.2

theorem AtLine.field (h : r.AtLine) : (r.field f).AtLine :=
  ⟨field_line.trans h.line, field_returned.trans h.returned⟩

theorem AtLine.foldl_field (h : r.AtLine) : (fields.foldl Reader.field r).AtLine := by
  induction fields generalizing r with
  | nil => exact h
  | cons f fields ih => exact ih h.field

theorem AtLine.dispatch (h : r.AtLine) : r.dispatch.AtLine := by
  unfold Reader.dispatch
  split_ifs <;> exact ⟨h.line, h.returned⟩

theorem AtLine.take (h : r.AtLine) : (r.take fields).AtLine := h.foldl_field.dispatch

theorem foldl_field_messages : (fields.foldl field r).messages = r.messages := by
  induction fields generalizing r with
  | nil => rfl
  | cons f fields ih => exact ih.trans field_messages

/-- Inside a line nothing is handed on. -/
theorem read_oneLine (htext : OneLine text) (hr : r.returned = false) :
    r.read text = { r with line := r.line ++ text } := by
  induction text generalizing r with
  | nil =>
    rw [List.append_nil]
    rfl
  | cons c text ih =>
    obtain ⟨hnewline, hreturn⟩ := htext c List.mem_cons_self
    have hfeed : r.feed c = { r with line := r.line ++ [c] } := by
      rw [feed, if_neg hnewline, if_neg hreturn, hr]
    have hrest := ih (r := { r with line := r.line ++ [c] })
      (fun d hd => htext d (List.mem_cons_of_mem c hd)) hr
    rw [read, List.foldl_cons, hfeed]
    refine hrest.trans ?_
    rw [List.append_assoc]
    rfl

theorem feed_newline (hr : r.returned = false) : r.feed '\n' = r.endLine :=
  (if_pos rfl).trans (if_neg (by simp [hr]))

theorem cutLine_text (hcolon : ':' ∉ f.name) :
    cutLine (f.name ++ ':' :: ' ' :: f.value) = f := by
  have hname : ∀ c ∈ f.name, decide (c ≠ ':') = true := by
    intro c hc
    refine decide_eq_true ?_
    rintro rfl
    exact hcolon hc
  have hdrop : (f.name ++ ':' :: ' ' :: f.value).dropWhile (· ≠ ':') = ':' :: ' ' :: f.value := by
    rw [List.dropWhile_append_of_pos hname]
    rfl
  have htake : (f.name ++ ':' :: ' ' :: f.value).takeWhile (· ≠ ':') = f.name := by
    rw [List.takeWhile_append_of_pos hname]
    simp
  simp only [cutLine, hdrop, htake]

theorem read_field (hf : f.Clean) (h : r.AtLine) : r.read f.text = r.field f := by
  have hbody := read_oneLine hf.body h.returned
  rw [h.line, List.nil_append] at hbody
  rw [FrameLine.text_eq, read_append, hbody, read, List.foldl_cons, List.foldl_nil]
  rw [feed_newline (r := { r with line := f.name ++ ':' :: ' ' :: f.value }) h.returned, endLine,
    if_neg (by simp)]
  simp only [cutLine_text hf.colon]
  congr 1
  obtain ⟨id, type, data, line, returned, messages⟩ := r
  simp only [mk.injEq, true_and, and_true]
  exact h.line.symm

theorem read_fields (hfields : ∀ f ∈ fields, f.Clean) (h : r.AtLine) :
    r.read (fields.flatMap FrameLine.text) = fields.foldl field r := by
  induction fields generalizing r with
  | nil => rfl
  | cons f fields ih =>
    rw [List.flatMap_cons, read_append, read_field (hfields f List.mem_cons_self) h,
      ih (fun g hg => hfields g (List.mem_cons_of_mem f hg)) h.field]
    rfl

/-- The empty line hands the frame on. -/
theorem read_frame (hfields : ∀ f ∈ fields, f.Clean) (h : r.AtLine) :
    r.read (frameText fields) = r.take fields := by
  rw [frameText, read_append, read_fields hfields h, read, List.foldl_cons, List.foldl_nil,
    feed_newline h.foldl_field.returned, endLine, if_pos h.foldl_field.line, take]

theorem read_frames {frames : List (List FrameLine)}
    (hframes : ∀ fields ∈ frames, ∀ f ∈ fields, f.Clean) (h : r.AtLine) :
    r.read (frames.flatMap frameText) = frames.foldl take r := by
  induction frames generalizing r with
  | nil => rfl
  | cons fields frames ih =>
    rw [List.flatMap_cons, read_append, read_frame (hframes fields List.mem_cons_self) h,
      ih (fun gs hgs => hframes gs (List.mem_cons_of_mem fields hgs)) h.take]
    rfl

/-! Texts that are cut off. -/

/-- A frame that is cut off hands nothing on. -/
theorem read_cut {n : Nat} (hfields : ∀ f ∈ fields, f.Clean) (h : r.AtLine)
    (hn : n < (frameText fields).length) :
    (r.read ((frameText fields).take n)).messages = r.messages := by
  induction fields generalizing r n with
  | nil =>
    obtain rfl : n = 0 := by
      simp [frameText] at hn
      omega
    rfl
  | cons f fields ih =>
    have hclean := hfields f List.mem_cons_self
    have hsplit : frameText (f :: fields) = f.text ++ frameText fields := by
      simp [frameText]
    rw [hsplit, List.length_append] at hn
    rw [hsplit, List.take_append, read_append]
    by_cases hshort : n < f.text.length
    · have hbody : f.text.take n = (f.name ++ ':' :: ' ' :: f.value).take n := by
        rw [FrameLine.text_eq, List.length_append, List.length_singleton] at hshort
        rw [FrameLine.text_eq, List.take_append_of_le_length (by omega)]
      have honeLine : OneLine (f.text.take n) := by
        intro c hc
        rw [hbody] at hc
        exact hclean.body c (List.mem_of_mem_take hc)
      rw [Nat.sub_eq_zero_of_le hshort.le, List.take_zero, read_oneLine honeLine h.returned]
      rfl
    · have hrest := ih (r := r.field f) (n := n - f.text.length)
        (fun g hg => hfields g (List.mem_cons_of_mem f hg)) h.field (by omega)
      rw [List.take_of_length_le (by omega), read_field hclean h, hrest, field_messages]

/-- Of a text that is cut off, the first frames are handed on, as wholes. -/
theorem read_frames_cut {frames : List (List FrameLine)} (n : Nat)
    (hframes : ∀ fields ∈ frames, ∀ f ∈ fields, f.Clean) (h : r.AtLine) :
    ∃ k, (r.read ((frames.flatMap frameText).take n)).messages =
      ((frames.take k).foldl take r).messages := by
  induction frames generalizing r n with
  | nil => exact ⟨0, by simp [read]⟩
  | cons fields frames ih =>
    have hclean := hframes fields List.mem_cons_self
    rw [List.flatMap_cons, List.take_append, read_append]
    by_cases hshort : n < (frameText fields).length
    · refine ⟨0, ?_⟩
      rw [Nat.sub_eq_zero_of_le hshort.le, List.take_zero]
      exact read_cut hclean h hshort
    · obtain ⟨k, hk⟩ := ih (r := r.take fields) (n - (frameText fields).length)
        (fun gs hgs => hframes gs (List.mem_cons_of_mem fields hgs)) h.take
      refine ⟨k + 1, ?_⟩
      rw [List.take_of_length_le (by omega), read_frame hclean h, hk]
      rfl

end Reader
end EventStream
