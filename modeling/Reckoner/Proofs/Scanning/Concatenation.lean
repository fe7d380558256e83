import Reckoner.Proofs.Scanning.Words

/-!
# Reckoner — texts one behind the other

With blanks between them, two texts are scanned one after the other. Nothing is carried
over the blanks but the place: the first text splits as it does by itself, and what is said
of the second one, be it tokens or a refusal, is what is said of it by itself, further on.

Main results:

* `scanFrom_shift` — from a position further on, a text splits into the same tokens further
  on, or is refused for the same reason further on;
* `scan_append_blanks` — the scan of a text, blanks and another text.
-/

namespace Reckoner.Token

open Lexeme

/-- A refusal further on in a text. -/
theorem refuse_shift (x : Extent) (p : Position) (c : Char) (rest : List Char)
    (error : ScanError) : refuse (p.shift x) c rest error = (refuse p c rest error).shift x := by
  have hstop : (p.shift x).advance c = (p.advance c).shift x := Position.shift_advance x p c
  cases error with
  | unexpected d =>
    simp only [refuse, hstop]
    rfl
  | unterminated =>
    simp only [refuse, hstop, Position.shift_after]
    rfl

/-- What is said of a text further on: tokens that stand further on, or a refusal there. -/
def shiftScan (x : Extent) (r : Except Diagnostic (List Token)) :
    Except Diagnostic (List Token) :=
  (r.map (List.map (·.shift x))).mapError (·.shift x)

/-- **Scanning from further on.** The scanner knows of what is before a text only how far it
reaches. -/
theorem scanFrom_shift (x : Extent) (p : Position) (cs : List Char) :
    scanFrom (p.shift x) cs = shiftScan x (scanFrom p cs) := by
  fun_induction scanFrom p cs with
  | case1 p =>
    rw [scanFrom_nil]
    rfl
  | case2 p c rest hc ih =>
    rw [scanFrom_blank hc, Position.shift_advance, ih]
  | case3 p c rest hc error hcut =>
    rw [scanFrom, if_neg hc, hcut]
    simp only [refuse_shift]
    rfl
  | case4 p c rest hc k tail hcut stop d hlater ih =>
    have hstop : ((p.shift x).advance c).after tail = stop.shift x := by
      rw [Position.shift_advance, Position.shift_after]
    rw [scanFrom, if_neg hc, hcut]
    simp only [hstop, ih, hlater]
    rfl
  | case5 p c rest hc k tail hcut stop later hlater ih =>
    have hstop : ((p.shift x).advance c).after tail = stop.shift x := by
      rw [Position.shift_advance, Position.shift_after]
    rw [scanFrom, if_neg hc, hcut]
    simp only [hstop, ih, hlater]
    rfl

/-- Blanks in front of a text only move it. -/
theorem scanFrom_blanks {gap : List Char} (hgap : ∀ c ∈ gap, isBlank c) (p : Position)
    (cs : List Char) : scanFrom p (gap ++ cs) = scanFrom (p.after gap) cs := by
  induction gap generalizing p with
  | nil => rfl
  | cons c gap ih =>
    obtain ⟨hc, hgap⟩ := List.forall_mem_cons.1 hgap
    rw [List.cons_append, scanFrom_blank hc, ih hgap, Position.after_cons]

theorem scan_blanks_append {gap : String} (hgap : ∀ c ∈ gap.toList, isBlank c) (text : String) :
    scan (gap ++ text) = shiftScan (Extent.of gap.toList) (scan text) := by
  show scanFrom .origin (gap ++ text).toList = _
  rw [String.toList_append, scanFrom_blanks hgap, Position.after_eq_shift, scanFrom_shift]
  rfl

/-- A text with blanks behind it splits as it does by itself, whatever stands behind the
blanks. -/
theorem Splits.append_blanks {cs gap : List Char} {p : Position} {ts : List Token}
    (h : Splits [] p cs ts) (hgap : ∀ c ∈ gap, isBlank c) (hne : gap ≠ []) (behind : List Char) :
    Splits behind p (cs ++ gap) ts := by
  have hstarts : StartsBlank (gap ++ behind) := by
    intro b u hb
    obtain ⟨c, rest, rfl⟩ := List.exists_cons_of_ne_nil hne
    obtain ⟨rfl, -⟩ := List.cons.inj hb
    exact hgap c (List.mem_cons_self ..)
  have hblanks : Splits behind (p.after cs) (gap ++ []) [] := .blanks hgap (.done _)
  have hboth := (h.blankBehind hstarts).append (List.append_nil gap ▸ hblanks)
  rwa [List.append_nil] at hboth

/-- Blanks at the end of a text leave no trace. -/
theorem Splits.append_blanks_nil {cs gap : List Char} {p : Position} {ts : List Token}
    (h : Splits [] p cs ts) (hgap : ∀ c ∈ gap, isBlank c) : Splits [] p (cs ++ gap) ts := by
  by_cases hne : gap = []
  · rwa [hne, List.append_nil]
  · exact h.append_blanks hgap hne []

/-- **Texts with blanks between them are scanned one after the other.** Behind a text that
splits into tokens stand blanks, at least one, and another text. If that splits, the whole
splits into the tokens of the first text, the end mark left out, and those of the other one,
the end mark included, with their spans raised by the bytes and their lines by the newlines
that stand before it. If it is refused, so is the whole, with the same refusal raised in the
same way. -/
theorem scan_append_blanks {a gap : String} {ts : List Token} (h : scan a = .ok ts)
    (hgap : ∀ c ∈ gap.toList, isBlank c) (hne : gap ≠ "") (b : String) :
    let x : Extent := ⟨(a ++ gap).utf8ByteSize, (a ++ gap).toList.count '\n'⟩
    (∀ us, scan b = .ok us →
      scan (a ++ gap ++ b) = .ok (ts.filter (·.kind ≠ .endOfInput) ++ us.map (·.shift x))) ∧
    (∀ d, scan b = .error d → scan (a ++ gap ++ b) = .error (d.shift x)) := by
  intro x
  have hx : Extent.of (a ++ gap).toList = x := by
    rw [Extent.of, String.ofList_toList]
  obtain ⟨us, hus, rfl⟩ := scanFrom_eq_ok_iff.1 h
  have hgap' : gap.toList ≠ [] := fun hnil => hne (String.toList_eq_nil_iff.1 hnil)
  have hfront := (hus.append_blanks hgap hgap' b.toList).scanFrom_append
  rw [← String.toList_append, ← String.toList_append, Position.after_eq_shift, hx,
    scanFrom_shift] at hfront
  have hscan : scan (a ++ gap ++ b) = (shiftScan x (scan b)).map (us ++ ·) := hfront
  refine ⟨fun vs hvs => ?_, fun d hd => ?_⟩
  · rw [hscan, hvs, hus.filter_marked]
    rfl
  · rw [hscan, hd]
    rfl

/-- An operator behind a string over two lines, then a line end, and a text that starts with
an equals sign and is refused: the sign stays apart from the operator, and the refusal is on
the third line. -/
theorem scan_append_blanks_refused :
    let string : Token := ⟨.string, "\"é\n\"", some (.string "é\n"), 1, ⟨0, 5⟩⟩
    let bang : Token := ⟨.bang, "!", none, 2, ⟨5, 6⟩⟩
    scan "\"é\n\"!" = .ok [string, bang, endMark 2 6] ∧
      scan "\"é\n\"!\n= #" = .error
        { stage := .lexical, message := "unexpected token `#`", line := some 3
          span := some ⟨9, 10⟩ } := by
  intro string bang
  have hsplits : Splits [] .origin "\"é\n\"!".toList [string, bang] :=
    @Splits.token _ _ _ ['é', '\n', '"'] _ _ _ rfl rfl <|
      @Splits.token _ _ _ [] _ _ _ rfl rfl <| .done _
  have hscan : scan "\"é\n\"!" = .ok [string, bang, endMark 2 6] :=
    scanFrom_eq_ok_iff.2 ⟨_, hsplits, rfl⟩
  have hrefused : scan "= #" = .error
      { stage := .lexical, message := "unexpected token `#`", line := some 1
        span := some ⟨2, 3⟩ } := by
    have hequal : Splits ['#'] .origin ['=', ' '] _ :=
      @Splits.token _ _ _ [] _ _ _ rfl rfl <| .blank rfl <| .done _
    have hbehind := hequal.scanFrom_append
    rw [scanFrom.eq_def _ ['#']] at hbehind
    exact hbehind
  have hgap : ∀ c ∈ "\n".toList, isBlank c := List.all_eq_true.1 rfl
  obtain ⟨-, h⟩ := scan_append_blanks hscan hgap (by decide) "= #"
  exact ⟨hscan, h _ hrefused⟩

end Reckoner.Token
