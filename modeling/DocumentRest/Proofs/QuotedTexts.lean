import DocumentRest.Credentials
import Mathlib.Tactic.Common

namespace DocumentRest

namespace Text

section Hexadecimal

def lowerHexDigits : List Char := "0123456789abcdef".toList

def hexNumber (digits : List Char) : Nat :=
  digits.foldl (fun n c => 16 * n + lowerHexDigits.idxOf c) 0

theorem hexInduction {motive : Nat → List Char → Prop}
    (digit : ∀ d < 16, motive d [d.digitChar])
    (more : ∀ n s, ∀ d < 16, motive n s → motive (16 * n + d) (s ++ [d.digitChar])) (n : Nat) :
    motive n (Nat.toDigits 16 n) := by
  induction n using Nat.strongRecOn with
  | ind n ih =>
    by_cases hn : n < 16
    · rw [Nat.toDigits_of_lt_base hn]
      exact digit n hn
    · have hlast : n % 16 < 16 := Nat.mod_lt n (by decide)
      have hmore := more _ _ _ hlast (ih (n / 16) (by omega))
      rw [Nat.div_add_mod] at hmore
      rwa [Nat.toDigits_of_base_le (by decide) (by omega)]

theorem hexNumber_toDigits (n : Nat) : hexNumber (Nat.toDigits 16 n) = n := by
  have hidx : ∀ d < 16, lowerHexDigits.idxOf d.digitChar = d := by decide
  unfold hexNumber
  induction n using hexInduction with
  | digit d hd => simp [hidx d hd]
  | more n s d hd ih => simp [hidx d hd, ih]

theorem brace_not_mem_toDigits (n : Nat) : '\x7d' ∉ Nat.toDigits 16 n := by
  have hne : ∀ d < 16, '\x7d' ≠ d.digitChar := by decide
  induction n using hexInduction with
  | digit d hd => simp [hne d hd]
  | more n s d hd ih => simp [ih, hne d hd]

end Hexadecimal

def unescape? : List Char → Option (Char × List Char)
  | '"' :: s => some ('"', s)
  | '\\' :: s => some ('\\', s)
  | 'n' :: s => some ('\n', s)
  | 'r' :: s => some ('\r', s)
  | 't' :: s => some ('\t', s)
  | '0' :: s => some ('\x00', s)
  | 'u' :: '\x7b' :: s =>
    some (.ofNat (hexNumber (s.takeWhile (· ≠ '\x7d'))), (s.dropWhile (· ≠ '\x7d')).tail)
  | _ => none

theorem length_lt_of_unescape? {s r : List Char} {c : Char} (h : unescape? s = some (c, r)) :
    r.length < s.length := by
  unfold unescape? at h
  split at h
  case h_7 s =>
    have hdrop := (List.dropWhile_sublist (fun c => decide (c ≠ '\x7d')) (l := s)).length_le
    cases h
    simp only [List.length_tail, List.length_cons]
    omega
  all_goals cases h <;> simp

def untilClosed? : List Char → Option (List Char × List Char)
  | [] => none
  | c :: s =>
    if c = '"' then some ([], s)
    else if c = '\\' then
      match _h : unescape? s with
      | none => none
      | some (d, r) => (untilClosed? r).map fun (t, rest) => (d :: t, rest)
    else (untilClosed? s).map fun (t, rest) => (c :: t, rest)
termination_by s => s.length
decreasing_by
  · have hr := length_lt_of_unescape? ‹_›
    simp only [List.length_cons]
    omega
  · simp

def unquote? : List Char → Option (List Char × List Char)
  | '"' :: s => untilClosed? s
  | _ => none

theorem untilClosed?_escape {s r : List Char} {c : Char} (h : unescape? s = some (c, r)) :
    untilClosed? ('\\' :: s) = (untilClosed? r).map fun (t, rest) => (c :: t, rest) := by
  rw [untilClosed?, if_neg (by decide), if_pos rfl]
  split
  · rename_i hnone
    rw [h] at hnone
    cases hnone
  · rename_i hsome
    rw [h] at hsome
    cases hsome
    rfl

theorem unescape?_number (c : Char) (r : List Char) :
    unescape? ('u' :: '\x7b' :: (Nat.toDigits 16 c.toNat ++ '\x7d' :: r)) = some (c, r) := by
  have hdigits : ∀ d ∈ Nat.toDigits 16 c.toNat, decide (d ≠ '\x7d') = true := by
    intro d hd
    rw [decide_eq_true_eq]
    rintro rfl
    exact brace_not_mem_toDigits c.toNat hd
  rw [unescape?, List.takeWhile_append_of_pos hdigits, List.dropWhile_append_of_pos hdigits]
  simp [hexNumber_toDigits]

/-- A character stands in a quoted text as it is, or as an escape that gives it. -/
theorem quotedChar_cases (hidden : Char → Bool) (c : Char) :
    (quotedChar hidden c = [c] ∧ c ≠ '"' ∧ c ≠ '\\') ∨
      ∃ s, quotedChar hidden c = '\\' :: s ∧ ∀ r, unescape? (s ++ r) = some (c, r) := by
  unfold quotedChar
  -- One case for each escape, the last of them by number, and one for a character as it is.
  split_ifs with hquote hback hn hr ht h0 hc
  · subst hquote
    exact .inr ⟨_, rfl, fun r => rfl⟩
  · subst hback
    exact .inr ⟨_, rfl, fun r => rfl⟩
  · subst hn
    exact .inr ⟨_, rfl, fun r => rfl⟩
  · subst hr
    exact .inr ⟨_, rfl, fun r => rfl⟩
  · subst ht
    exact .inr ⟨_, rfl, fun r => rfl⟩
  · subst h0
    exact .inr ⟨_, rfl, fun r => rfl⟩
  · refine .inr ⟨'u' :: '\x7b' :: (Nat.toDigits 16 c.toNat ++ ['\x7d']), rfl, fun r => ?_⟩
    have hr := unescape?_number c r
    rwa [List.append_cons] at hr
  · exact .inl ⟨rfl, hquote, hback⟩

theorem untilClosed?_quotedChar (hidden : Char → Bool) (c : Char) (r : List Char) :
    untilClosed? (quotedChar hidden c ++ r) =
      (untilClosed? r).map fun (t, rest) => (c :: t, rest) := by
  rcases quotedChar_cases hidden c with ⟨hplain, hquote, hback⟩ | ⟨s, hs, hescape⟩
  · rw [hplain, List.singleton_append, untilClosed?, if_neg hquote, if_neg hback]
  · rw [hs, List.cons_append, untilClosed?_escape (hescape r)]

theorem untilClosed?_flatMap (hidden : Char → Bool) (s rest : List Char) :
    untilClosed? (s.flatMap (quotedChar hidden) ++ '"' :: rest) = some (s, rest) := by
  induction s with
  | nil => rw [List.flatMap_nil, List.nil_append, untilClosed?, if_pos rfl]
  | cons c s ih =>
    rw [List.flatMap_cons, List.append_assoc, untilClosed?_quotedChar, ih, Option.map_some]

/-- A quoted text is read back, and its closing quote is found, whatever follows. -/
theorem unquote?_quotedChars (hidden : Char → Bool) (s rest : List Char) :
    unquote? (quotedChars hidden s ++ rest) = some (s, rest) := by
  rw [quotedChars, List.append_assoc]
  exact untilClosed?_flatMap hidden s rest

end Text

namespace Credentials

variable (hidden : Char → Bool)

def displayHead : String := "Credentials \x7b username: "

def displayTail : String :=
  ", password: " ++ .ofList (Text.quotedChars hidden "***".toList) ++ " \x7d"

def displayWith (c : Credentials) : String :=
  displayHead ++ .ofList (Text.quotedChars hidden c.username.toList) ++ displayTail hidden

def username? (text : String) : Option (String × String) :=
  (Text.unquote? (text.toList.drop displayHead.toList.length)).map fun (name, tail) =>
    (.ofList name, .ofList tail)

theorem display_eq (c : Credentials) : c.display = c.displayWith Text.isUnprintable := by
  have hassoc (head name mid pass tail : String) :
      head ++ name ++ mid ++ pass ++ tail = head ++ name ++ (mid ++ pass ++ tail) := by
    simp only [String.append_assoc]
  exact hassoc displayHead (Text.quoted c.username) ", password: " (Text.quoted "***") " \x7d"

theorem username?_displayWith (c : Credentials) :
    username? (c.displayWith hidden) = some (c.username, displayTail hidden) := by
  have hdrop : (c.displayWith hidden).toList.drop displayHead.toList.length =
      Text.quotedChars hidden c.username.toList ++ (displayTail hidden).toList := by
    rw [displayWith, String.append_assoc, String.toList_append, String.toList_append,
      List.drop_left, String.toList_ofList]
  rw [username?, hdrop, Text.unquote?_quotedChars, Option.map_some]
  simp only [String.ofList_toList]

theorem displayWith_eq_iff (c c' : Credentials) :
    c.displayWith hidden = c'.displayWith hidden ↔ c.username = c'.username := by
  constructor
  · intro h
    have hname := username?_displayWith hidden c
    rw [h, username?_displayWith, Option.some.injEq, Prod.mk.injEq] at hname
    exact hname.1.symm
  · intro h
    rw [displayWith, displayWith, h]

/-- Credentials have the same text in a log just if their users have the same name. This is so
whichever characters are given by their number: a reader that does not know them gets the name back,
and finds behind it what stands behind every name. No text in quotes, whatever its characters are,
is taken for another one or for more or less than it is. -/
theorem display_tells_username :
    (∀ c c' : Credentials, c.display = c'.display ↔ c.username = c'.username) ∧
    (∀ c : Credentials, c.display = c.displayWith Text.isUnprintable) ∧
    ∀ hidden : Char → Bool,
      (∀ c c' : Credentials,
        c.displayWith hidden = c'.displayWith hidden ↔ c.username = c'.username) ∧
      (∀ c : Credentials,
        username? (c.displayWith hidden) = some (c.username, displayTail hidden)) ∧
      ∀ s rest, Text.unquote? (Text.quotedChars hidden s ++ rest) = some (s, rest) := by
  refine ⟨fun c c' => ?_, display_eq, fun hidden => ⟨displayWith_eq_iff hidden,
    username?_displayWith hidden, Text.unquote?_quotedChars hidden⟩⟩
  rw [display_eq, display_eq, displayWith_eq_iff]

example : (⟨"a\", password: \"x", "secret"⟩ : Credentials).display =
    "Credentials \x7b username: \"a\\\", password: \\\"x\", password: \"***\" \x7d" := by
  decide +kernel

end Credentials

end DocumentRest
