import DocumentRest.DatabasePath
import Mathlib.Tactic.Common

namespace DocumentRest

section SplitLast

variable {α : Type} [DecidableEq α] {sep : α}

theorem splitLast?_eq_none_iff {s : List α} : splitLast? sep s = none ↔ sep ∉ s := by
  induction s with
  | nil => simp [splitLast?]
  | cons a s ih =>
    rw [splitLast?, List.mem_cons, not_or, ← ih]
    cases splitLast? sep s with
    | some parts => simp
    | none =>
      by_cases ha : a = sep
      · simp [ha]
      · simp [ha, Ne.symm ha]

/-- No separator stands behind the last one, whatever stands before it. -/
theorem splitLast?_append {behind : List α} (h : sep ∉ behind) (before : List α) :
    splitLast? sep (before ++ sep :: behind) = some (before, behind) := by
  induction before with
  | nil => rw [List.nil_append, splitLast?, splitLast?_eq_none_iff.mpr h, if_pos rfl]
  | cons a before ih => rw [List.cons_append, splitLast?, ih]

end SplitLast

theorem exists_last_of_mem {α : Type} {sep : α} {s : List α} (h : sep ∈ s) :
    ∃ before behind, s = before ++ sep :: behind ∧ sep ∉ behind := by
  obtain ⟨r, t, hs, ht⟩ := List.eq_append_cons_of_mem (List.mem_reverse.mpr h)
  refine ⟨t.reverse, r.reverse, ?_, by simpa using ht⟩
  rw [← List.reverse_reverse s, hs]
  simp

namespace DatabasePath

theorem parse_of_not_mem {p : String} (h : '/' ∉ p.toList) : parse p = ⟨"", p⟩ := by
  rw [parse, splitLast?_eq_none_iff.mpr h]

theorem parse_display {d : DatabasePath} (h : '/' ∉ d.database.toList) : parse d.display = d := by
  have htext : d.display.toList = d.serverUrl.toList ++ '/' :: d.database.toList := by
    simp [display]
  rw [parse, htext, splitLast?_append h]
  simp only [String.ofList_toList]

theorem exists_display {p : String} (h : '/' ∈ p.toList) :
    ∃ d : DatabasePath, d.display = p ∧ '/' ∉ d.database.toList := by
  obtain ⟨server, name, hp, hname⟩ := exists_last_of_mem h
  refine ⟨⟨.ofList server, .ofList name⟩, ?_, by rwa [String.toList_ofList]⟩
  apply String.toList_injective
  simp [display, hp]

theorem display_parse {p : String} (h : '/' ∈ p.toList) : (parse p).display = p := by
  obtain ⟨d, rfl, hd⟩ := exists_display h
  rw [parse_display hd]

theorem slash_not_mem_database (p : String) : '/' ∉ (parse p).database.toList := by
  by_cases h : '/' ∈ p.toList
  · obtain ⟨d, rfl, hd⟩ := exists_display h
    rwa [parse_display hd]
  · rwa [parse_of_not_mem h]

/-- Reading a path and writing it undo each other, as far as they can: a name that was read has no
slash, a text with a slash is written as it was read, a path whose name has no slash is read as it
was written, and so is every path that was read from any text. A bare name is written behind a
slash. -/
theorem parse_and_display_agree :
    (∀ p, '/' ∉ (parse p).database.toList) ∧
    (∀ p, '/' ∈ p.toList → (parse p).display = p) ∧
    (∀ d : DatabasePath, '/' ∉ d.database.toList → parse d.display = d) ∧
    (∀ p, parse (parse p).display = parse p) ∧
    ∀ p, '/' ∉ p.toList → (parse p).display = "/" ++ p := by
  refine ⟨slash_not_mem_database, fun p h => display_parse h, fun d h => parse_display h,
    fun p => parse_display (slash_not_mem_database p), fun p h => ?_⟩
  rw [parse_of_not_mem h, display, String.empty_append]

/-- A server with a path of its own, a slash at the end, a bare name and no name at all. -/
theorem parse_and_display_agree_bare :
    '/' ∈ "http://h/a/demo".toList ∧ (parse "http://h/a/demo").display = "http://h/a/demo" ∧
      (parse "http://h/").display = "http://h/" ∧
      '/' ∉ "demo".toList ∧ (parse "demo").display = "/demo" ∧ parse "/demo" = parse "demo" ∧
      (parse "").display = "/" ∧ parse "/" = parse "" := by
  obtain ⟨_, hdisplay, hparse, hagain, hbare⟩ := parse_and_display_agree
  have hmem : '/' ∈ "http://h/a/demo".toList := by decide
  have hdemo : '/' ∉ "demo".toList := by decide
  refine ⟨hmem, hdisplay _ hmem, hdisplay _ (by decide), hdemo, hbare _ hdemo, ?_,
    hbare _ (by decide), ?_⟩
  · rw [← hagain "demo", hbare _ hdemo]
    rfl
  · exact hparse ⟨"", ""⟩ (by decide)

end DatabasePath

end DocumentRest
