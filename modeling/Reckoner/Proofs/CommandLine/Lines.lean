import Mathlib.Data.List.Forall2
import Reckoner.CommandLine.Interactive

/-!
# Reckoner — the lines of an input

An input that is a text falls into lines at its newlines. A session sees no more of a line
than what is left of it when the white space around it is gone, so neither a carriage return
in front of a newline nor a newline that is missing behind the last line makes a difference
to it.

Main results:

* `lines` — the lines of a text, by its newlines alone;
* `lines_append` — the lines of two texts with a newline between them;
* `run_nil`, `run_cons`, `run_cons_of_ending` — a session round by round;
* `run_linesOfBytes` — a session on an input without backspaces is the session on its lines.
-/

namespace Reckoner.CommandLine.Interactive

section Pieces

variable {α : Type}

/-- Pieces without the last one if there is nothing in it. -/
def dropEmptyLast : List (List α) → List (List α)
  | [] => []
  | [last] => if last.isEmpty then [] else [last]
  | piece :: next :: rest => piece :: dropEmptyLast (next :: rest)

theorem dropEmptyLast_append (ps qs : List (List α)) (h : qs ≠ []) :
    dropEmptyLast (ps ++ qs) = ps ++ dropEmptyLast qs := by
  induction ps with
  | nil => rfl
  | cons p rest ih =>
    obtain ⟨q, more, hq⟩ := List.exists_cons_of_ne_nil (List.append_ne_nil_of_right_ne_nil rest h)
    rw [List.cons_append, hq, dropEmptyLast, ← hq, ih, List.cons_append]

/-- What is left out at the end is empty. -/
theorem eq_dropEmptyLast_or (ps : List (List α)) :
    ps = dropEmptyLast ps ∨ ps = dropEmptyLast ps ++ [[]] := by
  fun_induction dropEmptyLast ps with
  | case1 => exact .inl rfl
  | case2 last h => exact .inr (by rw [List.isEmpty_iff.1 h]; rfl)
  | case3 last h => exact .inl rfl
  | case4 piece next rest ih =>
    rcases ih with ih | ih
    · exact .inl (congrArg _ ih)
    · exact .inr (congrArg _ ih)

variable [DecidableEq α]

/-- Nothing is lost when a list is cut. -/
theorem flatten_splitAfter (stop : α) (xs : List α) : (splitAfter stop xs).flatten = xs := by
  fun_induction splitAfter stop xs with
  | case1 => rfl
  | case2 rest ih => simp [ih]
  | case3 x rest hx hlater ih => simpa [hlater] using ih
  | case4 x rest hx piece pieces hlater ih => simpa [hlater] using ih

/-- Cut behind a given element, a list falls into the pieces between these elements, with
the element at the end of each but perhaps the last. -/
theorem splitAfter_pieces (stop : α) (xs : List α) :
    List.Forall₂ (fun line piece => line = piece ∨ line = piece ++ [stop])
      (splitAfter stop xs) (dropEmptyLast (xs.splitOn stop)) := by
  induction xs with
  | nil => exact .nil
  | cons x rest ih =>
    obtain ⟨p, ps, hps⟩ := List.exists_cons_of_ne_nil (List.splitOnP_ne_nil (· == stop) rest)
    rw [List.splitOn, hps] at ih
    rw [List.splitOn, List.splitOnP_cons_eq_if_modifyHead, hps]
    by_cases hx : x = stop
    · simpa [splitAfter, hx, dropEmptyLast] using ih
    · rw [splitAfter, if_neg hx, if_neg (by simpa using hx), List.modifyHead_cons]
      -- the element joins the first piece, which was left out if it is the last and was empty
      cases ps with
      | nil =>
        by_cases hp : p = []
        · have hnone : splitAfter stop rest = [] := by simpa [hp, dropEmptyLast] using ih
          simp [hnone, hp, dropEmptyLast]
        · rw [dropEmptyLast, if_neg (by simpa using hp)] at ih
          obtain ⟨line, later, hline, hlater, heq⟩ := List.forall₂_cons_right_iff.1 ih
          simpa [heq, dropEmptyLast] using And.intro hline hlater
      | cons q qs =>
        obtain ⟨line, later, hline, hlater, heq⟩ := List.forall₂_cons_right_iff.1 ih
        simpa [heq, dropEmptyLast] using And.intro hline hlater

end Pieces

-- ---------------------------------------------------------------------------
-- The lines of a text
-- ---------------------------------------------------------------------------

/-- The lines of a text: what stands between its newlines. Behind the last newline there is
a line only if there is something in it. -/
def lines (text : String) : List String :=
  (dropEmptyLast (text.toList.splitOn '\n')).map String.ofList

/-- The lines of two texts with a newline between them are the lines of the one and the lines
of the other, and an empty line if the first text does not need the newline. -/
theorem lines_append (a b : String) :
    lines (a ++ "\n" ++ b) = lines a ++ lines b ∨
      lines (a ++ "\n" ++ b) = lines a ++ "" :: lines b := by
  have hsplit : (a ++ "\n" ++ b).toList.splitOn '\n' =
      a.toList.splitOn '\n' ++ b.toList.splitOn '\n' := by
    have htext : (a ++ "\n" ++ b).toList = a.toList ++ '\n' :: b.toList := by simp
    rw [htext]
    exact List.splitOnP_append_cons _ _ (beq_self_eq_true '\n')
  have hlines : lines (a ++ "\n" ++ b) =
      (a.toList.splitOn '\n').map String.ofList ++ lines b := by
    rw [lines, hsplit, dropEmptyLast_append _ (b.toList.splitOn '\n') (List.splitOnP_ne_nil _ _),
      List.map_append, lines]
  rw [hlines]
  rcases eq_dropEmptyLast_or (a.toList.splitOn '\n') with h | h
  · exact .inl (by rw [h]; rfl)
  · exact .inr (by rw [h]; simp [lines])

/-- A line is what is left of it and its ending. -/
theorem exists_ending (line : List Char) :
    ∃ ending ∈ [[], ['\n'], ['\r', '\n']], line = stripEnding line ++ ending := by
  fun_cases stripEnding line with
  | case1 rest h => exact ⟨['\r', '\n'], by simp, by simpa using List.reverse_eq_iff.1 h⟩
  | case2 rest _ h => exact ⟨['\n'], by simp, by simpa using List.reverse_eq_iff.1 h⟩
  | case3 => exact ⟨[], by simp, by simp⟩

/-- What ends a line is white space. -/
theorem trimChars_append_ending {ending : List Char} (h : ending ∈ [[], ['\n'], ['\r', '\n']])
    (cs : List Char) : Text.trimChars (cs ++ ending) = Text.trimChars cs := by
  have hnewline : Text.isWhiteSpace '\n' := by decide
  have hreturn : Text.isWhiteSpace '\r' := by decide
  simp only [List.mem_cons, List.not_mem_nil, or_false] at h
  rcases h with rfl | rfl | rfl
  · rw [List.append_nil]
  · exact Text.trimChars_concat hnewline cs
  · rw [List.append_cons, Text.trimChars_concat hnewline, Text.trimChars_concat hreturn]

/-- A line by its text. -/
def Line.ofString (s : String) : Line := .text s.toList

theorem respond_ofString (s : Setting) (line : String) :
    respond s (.ofString line) = respondTo s (Text.trim line) := rfl

/-- Trimmed, the lines that are taken from a text are its lines. -/
theorem map_trimChars_splitAfter (text : String) :
    (splitAfter '\n' text.toList).map (fun line => Text.trimChars (stripEnding line)) =
      (lines text).map fun line => Text.trimChars line.toList := by
  rw [lines, List.map_map, ← List.forall₂_eq_eq_eq, List.forall₂_map_left_iff,
    List.forall₂_map_right_iff]
  refine (splitAfter_pieces '\n' text.toList).imp fun line piece hpiece => ?_
  obtain ⟨ending, hending, hline⟩ := exists_ending line
  have hstrip : Text.trimChars line = Text.trimChars (stripEnding line) := by
    conv_lhs => rw [hline]
    exact trimChars_append_ending hending _
  rw [Function.comp_apply, String.toList_ofList, ← hstrip]
  rcases hpiece with rfl | rfl
  · rfl
  · exact trimChars_append_ending (by simp) piece

/-- Where there are no backspaces, none is applied. -/
theorem linesOf_eq {text : List Char} (h : Text.backspace ∉ text) :
    linesOf text = (splitAfter '\n' text).map fun line => .text (stripEnding line) := by
  refine List.map_congr_left fun line hline => congrArg Line.text (Text.applyBackspaces_eq_self ?_)
  intro hmem
  obtain ⟨ending, -, heq⟩ := exists_ending line
  have hflat : Text.backspace ∈ (splitAfter '\n' text).flatten :=
    List.mem_flatten_of_mem hline (heq ▸ List.mem_append_left ending hmem)
  exact h (flatten_splitAfter '\n' text ▸ hflat)

/-- An input that is a text has the lines of the text. -/
theorem linesOfBytes_toUTF8 (text : String) : linesOfBytes text.toUTF8 = linesOf text.toList := by
  have hread : String.fromUTF8? text.toUTF8 = some text := dif_pos text.isValidUTF8
  rw [linesOfBytes, hread]

-- ---------------------------------------------------------------------------
-- The rounds of a session
-- ---------------------------------------------------------------------------

section Rounds

variable {s : Setting} {line : Line}

/-- The rounds of a session stop behind the one whose line ends it. -/
theorem rounds_cons_of_ending {exit : UInt8} (h : (respond s line).ending = some exit)
    (rest : List Line) (before : Output) :
    rounds s (line :: rest) before =
      (exit, before ++ attempt s.filter ++ (respond s line).output) := by
  rw [rounds, round]
  simp only [pure_bind, List.head?_cons, h]
  rfl

/-- After any other round the next one goes on behind what has been written. -/
theorem rounds_cons (h : (respond s line).ending = none) (rest : List Line) (before : Output) :
    rounds s (line :: rest) before =
      rounds s rest (before ++ attempt s.filter ++ (respond s line).output) := by
  rw [rounds, round]
  simp only [pure_bind, List.head?_cons, h]
  rfl

/-- What a session writes does not depend on what has been written before it. -/
theorem rounds_eq (s : Setting) (lines : List Line) (before : Output) :
    rounds s lines before = ((run s lines).exit, before ++ (run s lines).output) := by
  show _ = ((rounds s lines {}).1, before ++ (rounds s lines {}).2)
  induction lines generalizing before with
  | nil => rfl
  | cons line rest ih =>
    cases h : (respond s line).ending with
    | some exit =>
      rw [rounds_cons_of_ending h, rounds_cons_of_ending h]
      simp only [Output.empty_append, Output.append_assoc]
    | none =>
      rw [rounds_cons h, rounds_cons h, ih, ih ({} ++ _ ++ _)]
      simp only [Output.empty_append, Output.append_assoc]

/-- A session ends where its lines do, with success. -/
theorem run_nil (s : Setting) : run s [] = ⟨attempt s.filter, 0⟩ := by
  show Result.mk ({} ++ attempt s.filter) 0 = _
  rw [Output.empty_append]

/-- A line that ends the session is the last one it answers. -/
theorem run_cons_of_ending {exit : UInt8} (h : (respond s line).ending = some exit)
    (rest : List Line) :
    run s (line :: rest) = ⟨attempt s.filter ++ (respond s line).output, exit⟩ := by
  show Result.mk (rounds s (line :: rest) {}).2 (rounds s (line :: rest) {}).1 = _
  rw [rounds_cons_of_ending h, Output.empty_append]

/-- Behind any other line the session goes on with the next one. -/
theorem run_cons (h : (respond s line).ending = none) (rest : List Line) :
    run s (line :: rest) =
      ⟨attempt s.filter ++ (respond s line).output ++ (run s rest).output, (run s rest).exit⟩ := by
  show Result.mk (rounds s (line :: rest) {}).2 (rounds s (line :: rest) {}).1 = _
  rw [rounds_cons h, rounds_eq, Output.empty_append]

end Rounds

/-- Lines that are answered alike make the same session. -/
theorem run_congr {s : Setting} {ls ms : List Line}
    (h : ls.map (respond s) = ms.map (respond s)) : run s ls = run s ms := by
  induction ls generalizing ms with
  | nil =>
    cases ms with
    | nil => rfl
    | cons => cases h
  | cons l ls ih =>
    cases ms with
    | nil => cases h
    | cons m ms =>
      obtain ⟨hhead, htail⟩ := List.cons.inj h
      cases hm : (respond s m).ending with
      | some exit =>
        rw [run_cons_of_ending (hhead ▸ hm), run_cons_of_ending hm, hhead]
      | none => rw [run_cons (hhead ▸ hm), run_cons hm, hhead, ih htail]

/-- A session on an input without backspaces is the session on its lines. -/
theorem run_linesOfBytes (s : Setting) {text : String} (h : Text.backspace ∉ text.toList) :
    run s (linesOfBytes text.toUTF8) = run s ((lines text).map .ofString) := by
  rw [linesOfBytes_toUTF8, linesOf_eq h]
  apply run_congr
  have htrim := congrArg (List.map fun cs => respondTo s (String.ofList cs))
    (map_trimChars_splitAfter text)
  simpa [respond, Function.comp_def, Line.ofString] using htrim

end Reckoner.CommandLine.Interactive
