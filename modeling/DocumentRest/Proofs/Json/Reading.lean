import DocumentRest.Json.Lexical
import Mathlib.Tactic.Common

namespace DocumentRest.Json

variable {α β : Type}

def continuesNumeral (c : Char) : Bool := c.isDigit || c = '.' || c = 'e' || c = 'E'

/-- A text that does not go on with a numeral. -/
def EndsNumeral (s : List Char) : Prop := ∀ c ∈ s.head?, continuesNumeral c = false

def Reads (read : Reader α) (text : List Char) (a : α) : Prop :=
  ∀ r, EndsNumeral r → read (text ++ r) = .ok (a, r)

def Gives (read : Reader α) (P : α → Prop) : Prop := ∀ s a r, read s = .ok (a, r) → P a

theorem endsNumeral_nil : EndsNumeral [] := by
  intro c hc
  cases hc

theorem endsNumeral_cons {c : Char} (h : continuesNumeral c = false) (s : List Char) :
    EndsNumeral (c :: s) := by
  intro d hd
  cases hd
  exact h

theorem EndsNumeral.ne_cons {r : List Char} (h : EndsNumeral r) {c : Char}
    (hc : continuesNumeral c = true) (s : List Char) : r ≠ c :: s := by
  rintro rfl
  have hfalse := h c rfl
  rw [hc] at hfalse
  cases hfalse

theorem Reads.map {read : Reader α} {text : List Char} {a : α} (h : Reads read text a)
    (f : α → β) : Reads (fun s => (read s).map fun (a, r) => (f a, r)) text (f a) := by
  intro r hr
  show (read (text ++ r)).map _ = _
  rw [h r hr]
  rfl

theorem Gives.map {read : Reader α} {P : α → Prop} {Q : β → Prop} (h : Gives read P) {f : α → β}
    (hf : ∀ a, P a → Q (f a)) : Gives (fun s => (read s).map fun (a, r) => (f a, r)) Q := by
  intro s b r hb
  dsimp only at hb
  cases hs : read s with
  | error e => rw [hs] at hb; cases hb
  | ok p =>
    rw [hs] at hb
    cases hb
    exact hf p.1 (h s p.1 p.2 hs)

theorem exists_of_bind_eq_ok {ε : Type} {x : Except ε α} {f : α → Except ε β} {b : β}
    (h : x >>= f = .ok b) : ∃ a, x = .ok a ∧ f a = .ok b := by
  cases x with
  | error e => cases h
  | ok a => exact ⟨a, rfl, h⟩

section Space

def IsSpaceText (s : List Char) : Prop := ∀ c ∈ s, isSpace c = true

instance (s : List Char) : Decidable (IsSpaceText s) :=
  List.decidableBAll (isSpace · = true) s

theorem isSpaceText_nil : IsSpaceText [] := by
  intro c hc
  cases hc

theorem skipSpace_append {w : List Char} (hw : IsSpaceText w) (s : List Char) :
    skipSpace (w ++ s) = skipSpace s :=
  List.dropWhile_append_of_pos hw

theorem skipSpace_cons {c : Char} (hc : isSpace c = false) (s : List Char) :
    skipSpace (c :: s) = c :: s :=
  List.dropWhile_cons_of_neg (by simp [hc])

theorem continuesNumeral_of_isSpace {c : Char} (h : isSpace c = true) :
    continuesNumeral c = false := by
  simp only [isSpace, Bool.or_eq_true, decide_eq_true_eq] at h
  rcases h with ((rfl | rfl) | rfl) | rfl <;> decide

theorem endsNumeral_append {w s : List Char} (hw : IsSpaceText w) (hs : EndsNumeral s) :
    EndsNumeral (w ++ s) := by
  cases w with
  | nil => exact hs
  | cons c w => exact endsNumeral_cons (continuesNumeral_of_isSpace (hw c List.mem_cons_self)) _

theorem endsNumeral_of_isSpaceText {w : List Char} (hw : IsSpaceText w) : EndsNumeral w := by
  have hend := endsNumeral_append hw endsNumeral_nil
  rwa [List.append_nil] at hend

end Space

end DocumentRest.Json
