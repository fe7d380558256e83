import Reckoner.Proofs.Number.Shortest
import Reckoner.Proofs.Scanning.Words

/-!
# Reckoner — numbers as texts

A finite number is shown as a number is written, with a minus sign in front if it carries one, and
what is shown is read as the number again (`ofText?_text`). A written number has no white space in
it, so white space around it can be trimmed off and nothing else.
-/

namespace Reckoner.Number

variable {x : Float}

-- ---------------------------------------------------------------------------
-- Written numbers
-- ---------------------------------------------------------------------------

/-- Digits are a written number if there are any. -/
theorem Written.ofDigits {w : List Char} (hne : w ≠ []) (hw : ∀ d ∈ w, d.isDigit) : Written w := by
  obtain ⟨c, w, rfl⟩ := List.exists_cons_of_ne_nil hne
  obtain ⟨hc, hw⟩ := List.forall_mem_cons.1 hw
  exact .whole hc hw

/-- So are digits in front of a point and behind it. -/
theorem Written.ofPoint {w f : List Char} (hne : w ≠ []) (hw : ∀ d ∈ w, d.isDigit)
    (hne' : f ≠ []) (hf : ∀ d ∈ f, d.isDigit) : Written (w ++ '.' :: f) := by
  obtain ⟨c, w, rfl⟩ := List.exists_cons_of_ne_nil hne
  obtain ⟨d, f, rfl⟩ := List.exists_cons_of_ne_nil hne'
  obtain ⟨hc, hw⟩ := List.forall_mem_cons.1 hw
  obtain ⟨hd, hf⟩ := List.forall_mem_cons.1 hf
  exact .decimal hc hw hd hf

/-- A written number starts with a digit. -/
theorem Written.head {w : List Char} (h : Written w) : ∃ c rest, w = c :: rest ∧ c.isDigit := by
  cases h with
  | whole hc _ | decimal hc _ _ _ => exact ⟨_, _, rfl, hc⟩

/-- A number is written with digits and points. -/
theorem Written.mem {w : List Char} (h : Written w) : ∀ c ∈ w, c.isDigit ∨ c = '.' := by
  cases h with
  | whole hc hw => exact fun d hd => .inl (isDigit_cons hc hw d hd)
  | decimal hc hw hd hf =>
    rw [← List.cons_append]
    intro e he
    rcases List.mem_append.1 he with he | he
    · exact .inl (isDigit_cons hc hw e he)
    rcases List.mem_cons.1 he with rfl | he
    · exact .inr rfl
    · exact .inl (isDigit_cons hd hf e he)

/-- A written number, with or without a minus sign in front of it, is read as a decimal. -/
theorem ofText?_written {w : List Char} (h : Written w) (negative : Bool) :
    ofText? (String.ofList (if negative then '-' :: w else w)) = decimal? negative w := by
  obtain ⟨c, rest, rfl, hc⟩ := h.head
  cases negative with
  | false => exact ofText?_digit hc (String.toList_ofList)
  | true =>
    unfold ofText?
    rw [String.toList_ofList]
    show (word? true (c :: rest) <|> decimal? true (c :: rest)) = _
    rw [word?_digit hc]
    rfl

-- ---------------------------------------------------------------------------
-- Decimals
-- ---------------------------------------------------------------------------

namespace Decimal

/-- The digits of a decimal, with zeros in front where the point needs them. -/
def padded (d : Decimal) : List Char :=
  List.replicate (d.places + 1 - (Nat.toDigits 10 d.digits).length) '0' ++ Nat.toDigits 10 d.digits

theorem chars_eq (d : Decimal) :
    d.chars =
      let point := d.padded.length - d.places
      if d.places = 0 then d.padded.take point
      else d.padded.take point ++ '.' :: d.padded.drop point := rfl

theorem isDigit_padded (d : Decimal) : ∀ c ∈ d.padded, c.isDigit := by
  intro c hc
  rcases List.mem_append.1 hc with hc | hc
  · rw [List.eq_of_mem_replicate hc]
    rfl
  · exact Nat.isDigit_of_mem_toDigits (by decide) (by decide) hc

/-- There is a digit in front of the point. -/
theorem places_lt_length_padded (d : Decimal) : d.places < d.padded.length := by
  unfold padded
  rw [List.length_append, List.length_replicate]
  omega

/-- The zeros in front do not count. -/
theorem ofDigitChars_padded (d : Decimal) : Nat.ofDigitChars 10 d.padded 0 = d.digits := by
  unfold padded
  rw [Nat.ofDigitChars_append, Nat.ofDigitChars_replicate_zero, Nat.mul_zero,
    Nat.ofDigitChars_ten_toDigits]

/-- A decimal is written as a number, and is read as what its digits say. -/
theorem chars_spec (d : Decimal) :
    Written d.chars ∧ ∀ negative,
      decimal? negative d.chars = some (Number.ofScientific negative d.digits (-d.places)) := by
  rw [chars_eq]
  have hlength := d.places_lt_length_padded
  have hread := d.ofDigitChars_padded
  have hdigits := d.isDigit_padded
  generalize d.padded = ds at hlength hread hdigits
  simp only
  have hwhole : ds.take (ds.length - d.places) ≠ [] := by
    rw [← List.length_pos_iff, List.length_take]
    omega
  have hwhole' : ∀ c ∈ ds.take (ds.length - d.places), c.isDigit :=
    fun c hc => hdigits c (List.mem_of_mem_take hc)
  split
  · next hplaces =>
    refine ⟨.ofDigits hwhole hwhole', fun negative => ?_⟩
    rw [decimal?_whole hwhole hwhole', ofDigits, List.append_nil, hplaces, Nat.sub_zero,
      List.take_length, hread]
    rfl
  · next hplaces =>
    have hfraction : (ds.drop (ds.length - d.places)).length = d.places := by
      rw [List.length_drop]
      omega
    have hfraction' : ∀ c ∈ ds.drop (ds.length - d.places), c.isDigit :=
      fun c hc => hdigits c (List.mem_of_mem_drop hc)
    refine ⟨.ofPoint hwhole hwhole' (fun h => ?_) hfraction', fun negative => ?_⟩
    · rw [h] at hfraction
      exact hplaces hfraction.symm
    · rw [decimal?_point hwhole hwhole' hfraction', ofDigits, List.take_append_drop, hread,
        hfraction, Int.zero_sub]

end Decimal

-- ---------------------------------------------------------------------------
-- What is shown of a number
-- ---------------------------------------------------------------------------

/-- A finite number is shown as a number is written, behind a minus sign if it carries one. -/
theorem text_of_isFinite (h : x.isFinite) :
    text x = String.ofList (if isNegative x then '-' :: (decimalOf x.abs).chars
      else (decimalOf x.abs).chars) := by
  have hnan : ¬ x.isNaN := fun hnan =>
    Nat.lt_asymm ((isNaN_iff x).1 hnan) ((isFinite_iff x).1 h)
  unfold text
  rw [if_neg hnan, if_pos h]

/-- Without the sign, its written form is read as the number without its sign. -/
theorem ofText?_chars (h : x.isFinite) :
    ofText? (String.ofList (decimalOf x.abs).chars) = some x.abs := by
  obtain ⟨hwritten, hread⟩ := (decimalOf x.abs).chars_spec
  have hvalue := toFloat_decimalOf_abs h
  exact (ofText?_written hwritten false).trans ((hread false).trans (congrArg some hvalue))

/-- The infinities are all that is neither finite nor no number. -/
theorem eq_infinity (hnan : ¬ x.isNaN) (hfinite : ¬ x.isFinite) : x = infinity (isNegative x) := by
  rw [isNaN_iff, Nat.not_lt] at hnan
  rw [isFinite_iff, Nat.not_lt] at hfinite
  rw [infinity, ← Nat.le_antisymm hnan hfinite, ofBits_bits hnan]

theorem ofText?_infinity (negative : Bool) :
    ofText? (String.ofList (if negative then '-' :: "inf".toList else "inf".toList)) =
      some (infinity negative) := by
  cases negative <;> rfl

/-- **What is shown of a number is read as that number.** -/
theorem ofText?_text (hnan : ¬ x.isNaN) : ofText? (text x) = some x := by
  by_cases hfinite : x.isFinite
  · obtain ⟨hwritten, hread⟩ := (decimalOf x.abs).chars_spec
    rw [text_of_isFinite hfinite, ofText?_written hwritten, hread, ofScientific_decimalOf hfinite]
  · unfold text
    rw [if_neg hnan, if_neg hfinite]
    simp only
    rw [ofText?_infinity, ← eq_infinity hnan hfinite]

end Reckoner.Number
