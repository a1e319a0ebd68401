import DocumentRest.Program
import DocumentRest.Proofs.CommandLanguage
import DocumentRest.Proofs.Utf8Reading

namespace DocumentRest

namespace Program

def withoutReturn (line : List UInt8) : List UInt8 :=
  if line.getLast? = some 13 then line.dropLast else line

def withoutEmptyEnd (pieces : List (List UInt8)) : List (List UInt8) :=
  if pieces.getLast? = some [] then pieces.dropLast else pieces

def inputLines (input : List UInt8) : List (List UInt8) :=
  (withoutEmptyEnd (input.splitOn 10)).map withoutReturn

def outcome? (line : List UInt8) : Option (Except UsageError (Option Command)) :=
  (Text.ofUtf8 line).toOption.map Command.parse

theorem outcome?_of_utf8 {line : List UInt8} {text : String}
    (h : Text.utf8Bytes text.toList = line) : outcome? line = some (Command.parse text) := by
  rw [outcome?, Text.ofUtf8_eq_ok_iff.mpr h]
  rfl

theorem outcome?_eq_none {line : List UInt8}
    (h : ∀ text : String, Text.utf8Bytes text.toList ≠ line) : outcome? line = none := by
  cases hr : Text.ofUtf8 line with
  | ok text => exact absurd (Text.ofUtf8_eq_ok_iff.mp hr) (h text)
  | error fault =>
    rw [outcome?, hr]
    rfl

section Return

theorem withoutReturn_concat (line : List UInt8) : withoutReturn (line ++ [13]) = line := by
  rw [withoutReturn, List.getLast?_concat, if_pos rfl, List.dropLast_concat]

/-- A return at the end of a text is a blank, and the bytes before it are a text just if those with
it are one. -/
theorem outcome?_concat_return (line : List UInt8) : outcome? (line ++ [13]) = outcome? line := by
  by_cases h : ∃ text : String, Text.utf8Bytes text.toList = line
  · obtain ⟨text, htext⟩ := h
    have hbytes : Text.utf8Bytes (String.ofList (text.toList ++ ['\r'])).toList = line ++ [13] := by
      rw [String.toList_ofList, Text.utf8Bytes_append, htext]
      rfl
    have hblank : Text.IsBlankText ['\r'] := fun c hc => by rw [List.mem_singleton.mp hc]; decide
    have htrim : Text.trim (text.toList ++ ['\r']) = Text.trim text.toList :=
      Text.trim_blanks Text.isBlankText_nil hblank text.toList
    rw [outcome?_of_utf8 htext, outcome?_of_utf8 hbytes]
    exact congrArg some (Command.parse_eq_of_trim_eq (by rw [String.toList_ofList, htrim]))
  · rw [not_exists] at h
    rw [outcome?_eq_none h, outcome?_eq_none]
    intro text htext
    obtain ⟨r, _, hr⟩ := Text.exists_of_utf8Bytes_concat (by decide) htext
    exact h (.ofList r) (by rw [String.toList_ofList, hr])

theorem outcome?_withoutReturn (line : List UInt8) :
    outcome? (withoutReturn line) = outcome? line := by
  by_cases h : line.getLast? = some 13
  · obtain ⟨r, rfl⟩ := List.getLast?_eq_some_iff.mp h
    rw [withoutReturn_concat, outcome?_concat_return]
  · rw [withoutReturn, if_neg h]

end Return

section Newline

theorem unended_concat (line : List UInt8) : unended (line ++ [10]) = withoutReturn line := by
  simp only [unended, List.getLast?_concat, List.dropLast_concat, if_true, withoutReturn]

theorem unended_of_not_mem {line : List UInt8} (h : 10 ∉ line) : unended line = line := by
  have hlast : line.getLast? ≠ some 10 := fun hl => h (List.mem_of_getLast? hl)
  rw [unended, if_neg hlast]

theorem lines_append {line : List UInt8} (h : 10 ∉ line) (rest : List UInt8) :
    lines (line ++ 10 :: rest) = (line ++ [10]) :: lines rest := by
  induction line with
  | nil => rfl
  | cons b line ih =>
    have hb : b ≠ 10 := fun hb => h (hb ▸ List.mem_cons_self)
    have hline : 10 ∉ line := fun hm => h (List.mem_cons_of_mem b hm)
    rw [List.cons_append, lines, if_neg hb, ih hline]
    rfl

theorem lines_of_not_mem {line : List UInt8} (h : 10 ∉ line) (hne : line ≠ []) :
    lines line = [line] := by
  induction line with
  | nil => exact absurd rfl hne
  | cons b line ih =>
    have hb : b ≠ 10 := fun hb => h (hb ▸ List.mem_cons_self)
    have hline : 10 ∉ line := fun hm => h (List.mem_cons_of_mem b hm)
    rw [lines, if_neg hb]
    cases line with
    | nil => rfl
    | cons b' line => rw [ih hline (List.cons_ne_nil b' line)]

theorem withoutEmptyEnd_cons_cons (p q : List UInt8) (ps : List (List UInt8)) :
    withoutEmptyEnd (p :: q :: ps) = p :: withoutEmptyEnd (q :: ps) := by
  rw [withoutEmptyEnd, withoutEmptyEnd, List.getLast?_cons_cons, List.dropLast_cons_cons]
  split_ifs <;> rfl

/-- Reading line after line comes to the same as reading the pieces between the newlines. -/
theorem map_outcome?_lines_intercalate {pieces : List (List UInt8)} (hne : pieces ≠ [])
    (h : ∀ p ∈ pieces, 10 ∉ p) :
    (lines ([10].intercalate pieces)).map (fun line => outcome? (unended line)) =
      ((withoutEmptyEnd pieces).map withoutReturn).map outcome? := by
  induction pieces with
  | nil => exact absurd rfl hne
  | cons p ps ih =>
    have hp : 10 ∉ p := h p List.mem_cons_self
    cases ps with
    | nil =>
      rw [List.intercalate_singleton]
      by_cases hnil : p = []
      · rw [hnil]
        rfl
      · have hend : withoutEmptyEnd [p] = [p] := if_neg (by simpa using hnil)
        rw [lines_of_not_mem hp hnil, hend, List.map_singleton, List.map_singleton,
          List.map_singleton, unended_of_not_mem hp, outcome?_withoutReturn]
    | cons q qs =>
      have hqs : ∀ p' ∈ q :: qs, 10 ∉ p' := fun p' hp' => h p' (List.mem_cons_of_mem p hp')
      rw [List.intercalate_cons_cons, List.append_assoc, List.singleton_append, lines_append hp,
        withoutEmptyEnd_cons_cons, List.map_cons, List.map_cons, List.map_cons,
        ih (List.cons_ne_nil q qs) hqs, unended_concat]

theorem map_outcome?_lines (input : List UInt8) :
    (lines input).map (fun line => outcome? (unended line)) =
      (inputLines input).map outcome? := by
  have hmem : ∀ p ∈ input.splitOn 10, 10 ∉ p := by
    intro p hp h10
    have h := Text.eq_false_of_mem_splitOnP hp 10 h10
    exact Bool.false_ne_true (h.symm.trans (beq_self_eq_true _))
  have h := map_outcome?_lines_intercalate (List.splitOn_ne_nil 10 input) hmem
  rwa [List.intercalate_splitOn] at h

end Newline

end Program

end DocumentRest
