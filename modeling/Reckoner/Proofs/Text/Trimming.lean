import Mathlib.Data.List.TakeWhile
import Reckoner.Text.Blank

/-!
# Reckoner — what trimming leaves

White space all around is trimmed off, and nothing else: a text is what trimming leaves of it
between white space, and what is left neither starts nor ends with any (`trim_eq_iff`).
-/

namespace Reckoner.Text

/-- There is no white space at either end. -/
structure Trimmed (cs : List Char) : Prop where
  front : ∀ c ∈ cs.head?, isWhiteSpace c = false
  back : ∀ c ∈ cs.getLast?, isWhiteSpace c = false

/-- There is none at the ends if there is none at all. -/
theorem Trimmed.of_forall {cs : List Char} (h : ∀ c ∈ cs, isWhiteSpace c = false) : Trimmed cs :=
  ⟨fun c hc => h c (List.mem_of_head? hc), fun c hc => h c (List.mem_of_getLast? hc)⟩

/-- Of white space alone nothing is left. -/
theorem trimChars_eq_nil_iff {cs : List Char} :
    trimChars cs = [] ↔ ∀ c ∈ cs, isWhiteSpace c := by
  unfold trimChars
  rw [List.reverse_eq_nil_iff, List.dropWhile_eq_nil_iff]
  constructor
  · intro h c hc
    rw [← @List.takeWhile_append_dropWhile _ isWhiteSpace cs] at hc
    rcases List.mem_append.1 hc with hc | hc
    · exact List.mem_takeWhile_imp hc
    · exact h c (List.mem_reverse.2 hc)
  · intro h c hc
    exact h c ((List.dropWhile_sublist _).mem (List.mem_reverse.1 hc))

/-- Nothing is dropped in front of what is no white space. -/
theorem dropWhile_isWhiteSpace {cs : List Char} (hne : cs ≠ [])
    (h : ∀ c ∈ cs.head?, isWhiteSpace c = false) (behind : List Char) :
    (cs ++ behind).dropWhile isWhiteSpace = cs ++ behind := by
  obtain ⟨c, cs, rfl⟩ := List.exists_cons_of_ne_nil hne
  exact List.dropWhile_cons_of_neg (by rw [h c rfl]; decide)

/-- White space around what has none at its ends is trimmed off, and nothing else. -/
theorem trimChars_surrounded {lead cs trail : List Char} (hlead : ∀ c ∈ lead, isWhiteSpace c)
    (h : Trimmed cs) (htrail : ∀ c ∈ trail, isWhiteSpace c) :
    trimChars (lead ++ cs ++ trail) = cs := by
  by_cases hne : cs = []
  · subst hne
    rw [List.append_nil]
    exact trimChars_eq_nil_iff.2 (List.forall_mem_append.2 ⟨hlead, htrail⟩)
  · have hback : ∀ c ∈ cs.reverse.head?, isWhiteSpace c = false := by
      rw [List.head?_reverse]
      exact h.back
    unfold trimChars
    rw [List.append_assoc, List.dropWhile_append_of_pos hlead, dropWhile_isWhiteSpace hne h.front,
      List.reverse_append,
      List.dropWhile_append_of_pos fun c hc => htrail c (List.mem_reverse.1 hc)]
    have hdrop := dropWhile_isWhiteSpace (mt List.reverse_eq_nil_iff.1 hne) hback []
    rw [List.append_nil] at hdrop
    rw [hdrop, List.reverse_reverse]

theorem head?_dropWhile_isWhiteSpace (cs : List Char) :
    ∀ c ∈ (cs.dropWhile isWhiteSpace).head?, isWhiteSpace c = false := by
  intro c hc
  have hnot := List.head?_dropWhile_not isWhiteSpace cs
  rw [Option.mem_def.1 hc] at hnot
  exact hnot

/-- What trimming leaves stands between white space, and has none at its ends. -/
theorem exists_surrounding (cs : List Char) :
    ∃ lead trail, cs = lead ++ trimChars cs ++ trail ∧ (∀ c ∈ lead, isWhiteSpace c) ∧
      Trimmed (trimChars cs) ∧ ∀ c ∈ trail, isWhiteSpace c := by
  have hfront := head?_dropWhile_isWhiteSpace cs
  have hcs := @List.takeWhile_append_dropWhile _ isWhiteSpace cs
  unfold trimChars
  generalize cs.dropWhile isWhiteSpace = ds at hfront hcs
  have hds : ds = (ds.reverse.dropWhile isWhiteSpace).reverse ++
      (ds.reverse.takeWhile isWhiteSpace).reverse := by
    rw [← List.reverse_append, List.takeWhile_append_dropWhile, List.reverse_reverse]
  refine ⟨cs.takeWhile isWhiteSpace, (ds.reverse.takeWhile isWhiteSpace).reverse, ?_,
    fun c hc => List.mem_takeWhile_imp hc, ⟨fun c hc => ?_, ?_⟩,
    fun c hc => List.mem_takeWhile_imp (List.mem_reverse.1 hc)⟩
  · rw [List.append_assoc, ← hds, hcs]
  · rw [hds, List.head?_append, Option.mem_def.1 hc] at hfront
    exact hfront c rfl
  · rw [List.getLast?_reverse]
    exact head?_dropWhile_isWhiteSpace ds.reverse

/-- A text is what trimming leaves of it, with white space around that. -/
theorem trim_eq_iff {s text : String} :
    trim s = text ↔ ∃ lead trail, s = lead ++ text ++ trail ∧
      (∀ c ∈ lead.toList, isWhiteSpace c) ∧ Trimmed text.toList ∧
      ∀ c ∈ trail.toList, isWhiteSpace c := by
  unfold trim
  constructor
  · rintro rfl
    obtain ⟨lead, trail, hs, hlead, htrimmed, htrail⟩ := exists_surrounding s.toList
    refine ⟨.ofList lead, .ofList trail, ?_, ?_, ?_, ?_⟩
    · rw [← String.ofList_append, ← String.ofList_append, ← hs, String.ofList_toList]
    all_goals rwa [String.toList_ofList]
  · rintro ⟨lead, trail, rfl, hlead, htrimmed, htrail⟩
    rw [String.toList_append, String.toList_append, trimChars_surrounded hlead htrimmed htrail,
      String.ofList_toList]

/-- White space around what has none in it is trimmed off. -/
theorem trim_surrounded {lead text trail : String} (hlead : ∀ c ∈ lead.toList, isWhiteSpace c)
    (h : ∀ c ∈ text.toList, isWhiteSpace c = false) (htrail : ∀ c ∈ trail.toList, isWhiteSpace c) :
    trim (lead ++ text ++ trail) = text :=
  trim_eq_iff.2 ⟨lead, trail, rfl, hlead, .of_forall h, htrail⟩

end Reckoner.Text
