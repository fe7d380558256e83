import Reckoner.Proofs.Environment.Prelude
import Reckoner.Proofs.Number.Order

/-!
# Reckoner — the least and the greatest of many numbers

`min` and `max` go through their arguments from left to right and keep one of them. What they
keep is characterized without any order of the arguments (`Best`), and where the arguments do
not hold both zeros, only one number is characterized so (`Best.eq`). Hence neither the order of
the arguments matters, nor in how many calls they are gone through.

Main result: `call_extremum`.
-/

namespace Reckoner.Builtin

open Number

variable {σ : Type} {key : Float → Int} {xs ys : List Float} {a b : Float}

-- ---------------------------------------------------------------------------
-- Keeping one of two
-- ---------------------------------------------------------------------------

/-- The one of two numbers that has the lower key, or the other one when one is no number. -/
def prefer (key : Float → Int) (a b : Float) : Float :=
  if a.isNaN then b else if ¬ b.isNaN ∧ key b < key a then b else a

theorem lesser_eq_prefer : lesser = prefer rank := by
  funext a b
  unfold lesser prefer
  by_cases ha : a.isNaN
  · rw [if_pos ha, if_pos ha]
  rw [if_neg ha, if_neg ha]
  by_cases hb : b.isNaN
  · rw [if_neg (not_lt_of_isNaN (.inl hb)), if_neg (fun h => h.1 hb)]
  · exact if_congr ((lt_iff hb ha).trans (and_iff_right hb).symm) rfl rfl

theorem greater_eq_prefer : greater = prefer (fun x => -rank x) := by
  funext a b
  unfold greater prefer
  by_cases ha : a.isNaN
  · rw [if_pos ha, if_pos ha]
  rw [if_neg ha, if_neg ha]
  by_cases hb : b.isNaN
  · rw [if_neg (not_lt_of_isNaN (.inr hb)), if_neg (fun h => h.1 hb)]
  · exact if_congr (((lt_iff ha hb).trans Int.neg_lt_neg_iff.symm).trans (and_iff_right hb).symm)
      rfl rfl

-- ---------------------------------------------------------------------------
-- Keeping one of many
-- ---------------------------------------------------------------------------

/-- One of the given numbers, with the lowest key of those that are numbers; it is no number only
if none of them is. -/
structure Best (key : Float → Int) (xs : List Float) (r : Float) : Prop where
  mem : r ∈ xs
  isNaN : r.isNaN → ∀ x ∈ xs, x.isNaN
  key_le : ∀ x ∈ xs, ¬ x.isNaN → key r ≤ key x

theorem best_singleton (x : Float) : Best key [x] x where
  mem := List.mem_singleton_self x
  isNaN h _ hx := List.mem_singleton.1 hx ▸ h
  key_le _ hx _ := List.mem_singleton.1 hx ▸ Int.le_refl _

/-- The order of the numbers does not matter. -/
theorem Best.perm (h : Best key xs a) (hperm : ys.Perm xs) : Best key ys a where
  mem := hperm.mem_iff.2 h.mem
  isNaN hnan x hx := h.isNaN hnan x (hperm.mem_iff.1 hx)
  key_le x hx := h.key_le x (hperm.mem_iff.1 hx)

/-- The best of two lists is the better of their best. -/
theorem Best.append (h : Best key xs a) (h' : Best key ys b) :
    Best key (xs ++ ys) (prefer key a b) := by
  unfold prefer
  by_cases ha : a.isNaN
  · -- nothing on the left is a number
    rw [if_pos ha]
    exact {
      mem := List.mem_append_right xs h'.mem
      isNaN := fun hb x hx => (List.mem_append.1 hx).elim (h.isNaN ha x) (h'.isNaN hb x)
      key_le := fun x hx hnan =>
        (List.mem_append.1 hx).elim (fun hx => absurd (h.isNaN ha x hx) hnan)
          fun hx => h'.key_le x hx hnan }
  rw [if_neg ha]
  by_cases hb : ¬ b.isNaN ∧ key b < key a
  · rw [if_pos hb]
    exact {
      mem := List.mem_append_right xs h'.mem
      isNaN := fun hnan => absurd hnan hb.1
      key_le := fun x hx hnan =>
        (List.mem_append.1 hx).elim
          (fun hx => Int.le_trans (Int.le_of_lt hb.2) (h.key_le x hx hnan))
          fun hx => h'.key_le x hx hnan }
  · rw [if_neg hb]
    refine ⟨List.mem_append_left ys h.mem, fun hnan => absurd hnan ha, fun x hx hnan => ?_⟩
    rcases List.mem_append.1 hx with hx | hx
    · exact h.key_le x hx hnan
    · have hbnum : ¬ b.isNaN := fun hbnan => hnan (h'.isNaN hbnan x hx)
      have hle : key a ≤ key b := Int.not_lt.1 fun hlt => hb ⟨hbnum, hlt⟩
      exact Int.le_trans hle (h'.key_le x hx hnan)

/-- Going on from the best of some numbers comes to the best of all of them. -/
theorem Best.foldl (h : Best key xs a) (ys : List Float) :
    Best key (xs ++ ys) (ys.foldl (prefer key) a) := by
  induction ys generalizing xs a with
  | nil => rwa [List.append_nil]
  | cons y ys ih =>
    have hstep := ih (h.append (best_singleton y))
    rwa [List.append_assoc, List.singleton_append] at hstep

/-- Only one number is the best, where the key tells numbers apart as the rank does and the two
zeros are not both there. -/
theorem Best.eq (hkey : ∀ {x y}, key x = key y → rank x = rank y)
    (hzeros : ¬ (0 ∈ xs ∧ -0 ∈ xs)) (h : Best key xs a) (h' : Best key xs b) : a = b := by
  by_cases ha : a.isNaN
  · exact eq_of_isNaN ha (h.isNaN ha b h'.mem)
  have hb : ¬ b.isNaN := fun hb => ha (h'.isNaN hb a h.mem)
  have hsame : key a = key b :=
    Int.le_antisymm (h.key_le b h'.mem hb) (h'.key_le a h.mem ha)
  rcases eq_of_rank_eq (hkey hsame) with rfl | ⟨rfl, rfl⟩ | ⟨rfl, rfl⟩
  · rfl
  · exact absurd ⟨h.mem, h'.mem⟩ hzeros
  · exact absurd ⟨h'.mem, h.mem⟩ hzeros

-- ---------------------------------------------------------------------------
-- Picking from arguments
-- ---------------------------------------------------------------------------

section Pick

variable (choose : Float → Float → Float)

/-- Two numbers in front come to the one that is chosen of them. -/
theorem pick_two (x y : Float) (rest : List Value) :
    pick choose (.number x :: .number y :: rest) = pick choose (.number (choose x y) :: rest) := rfl

theorem pick_numbers (x : Float) (xs : List Float) :
    pick choose (.number x :: xs.map .number) = .ok (xs.foldl choose x) := by
  induction xs generalizing x with
  | nil => rfl
  | cons y xs ih =>
    rw [List.map_cons, pick_two, ih]
    rfl

/-- The first argument that is no number is refused, whatever stands around it. -/
theorem pick_other (xs : List Float) {v : Value} (hv : v.asNumber? = none) (rest : List Value) :
    pick choose (xs.map .number ++ v :: rest) = .error (.kind "Number" v) := by
  cases xs with
  | nil => cases v <;> first | rfl | cases hv
  | cons x xs =>
    induction xs generalizing x with
    | nil => cases v <;> first | rfl | cases hv
    | cons y xs ih => exact ih (choose x y)

end Pick

theorem message_kind_number (name : String) (v : Value) :
    (ArgumentFault.kind "Number" v).message name =
      s!"function `{name}` expects Number, found {v.typeName}" := by
  have hmiddle : "` expects " ++ ("Number" ++ ", found ") = "` expects Number, found " := rfl
  unfold ArgumentFault.message
  simp only [toString, String.append_assoc, ← hmiddle]

-- ---------------------------------------------------------------------------
-- Calls
-- ---------------------------------------------------------------------------

/-- The functions that pick one of their arguments, each with the order in which the picked one
stands before the others. -/
inductive Extremum : Builtin → (Float → Float → Prop) → Prop
  | min : Extremum .min (· ≤ ·)
  | max : Extremum .max (fun a b => b ≤ a)

/-- Both of them pick by a key, which tells numbers apart as the rank does. -/
theorem Extremum.exists_key {f : Builtin} {before : Float → Float → Prop}
    (h : Extremum f before) :
    ∃ key : Float → Int,
      (∀ args, f.compute args = (pick (prefer key) args).map .number) ∧ f.arity = none ∧
      (∀ {x y}, key x = key y → rank x = rank y) ∧
      ∀ {x y}, ¬ x.isNaN → ¬ y.isNaN → (before x y ↔ key x ≤ key y) := by
  cases h with
  | min =>
    refine ⟨rank, fun args => ?_, rfl, id, le_iff⟩
    rw [← lesser_eq_prefer]
    rfl
  | max =>
    refine ⟨fun x => -rank x, fun args => ?_, rfl, Int.neg_inj.1, fun hx hy => ?_⟩
    · rw [← greater_eq_prefer]
      rfl
    · exact (le_iff hy hx).trans Int.neg_le_neg_iff.symm

/-- **The least and the greatest of many numbers.** Without arguments the call fails, and with
one that is no number it fails and names the kind of the first such argument, whatever stands
around it. Numbers among which there are not both zeros come to one of them: it is no number only
if none of them is, and else it is one and stands before all others that are. It is the same for
the numbers in any order, and if they are cut in two, it is that of the two parts' results. -/
theorem call_extremum {f : Builtin} {before : Float → Float → Prop} (hf : Extremum f before)
    {k : Nat} {g : Function} (hg : (Environment.prelude k).get f.name = .function g)
    (host : Host σ) (s : Run σ) :
    g.call host [] s =
        .error (.runtime s!"function `{f.name}` expects at least one argument") s ∧
      (∀ (xs : List Float) (v : Value) (rest : List Value), v.asNumber? = none →
        g.call host (xs.map .number ++ v :: rest) s =
          .error (.runtime s!"function `{f.name}` expects Number, found {v.typeName}") s) ∧
      ∀ xs : List Float, xs ≠ [] → ¬ (0 ∈ xs ∧ -0 ∈ xs) →
        ∃ r ∈ xs, g.call host (xs.map .number) s = .ok (.number r) s ∧
          (r.isNaN → ∀ x ∈ xs, x.isNaN) ∧ (¬ r.isNaN → ∀ x ∈ xs, ¬ x.isNaN → before r x) ∧
          (∀ ys : List Float, ys.Perm xs → g.call host (ys.map .number) s = .ok (.number r) s) ∧
          ∀ ys zs : List Float, ys ≠ [] → zs ≠ [] → xs = ys ++ zs →
            ∃ a b, g.call host (ys.map .number) s = .ok (.number a) s ∧
              g.call host (zs.map .number) s = .ok (.number b) s ∧
              g.call host [.number a, .number b] s = .ok (.number r) s := by
  obtain ⟨key, hcompute, harity, hkey, hbefore⟩ := hf.exists_key
  have hcall (args : List Value) : g.call host args s = Evaluation.ofExcept
      (((pick (prefer key) args).map .number).mapError (·.failure f.name)) s := by
    rw [Function.call_prelude hg (fun n hn => by rw [harity] at hn; cases hn), apply, hcompute]
  -- numbers come to the best of them
  have hnumbers {ys : List Float} (hys : ys ≠ []) :
      ∃ r, Best key ys r ∧ g.call host (ys.map .number) s = .ok (.number r) s := by
    obtain ⟨y, ys, rfl⟩ := List.exists_cons_of_ne_nil hys
    refine ⟨_, (best_singleton y).foldl ys, ?_⟩
    rw [hcall, List.map_cons, pick_numbers]
    rfl
  refine ⟨by rw [hcall]; rfl, fun xs v rest hv => ?_, ?_⟩
  · rw [hcall, pick_other _ xs hv, ← message_kind_number]
    rfl
  intro xs hxs hzeros
  obtain ⟨r, hbest, hr⟩ := hnumbers hxs
  refine ⟨r, hbest.mem, hr, hbest.isNaN, fun hnum x hx hx' => ?_, fun ys hperm => ?_, ?_⟩
  · exact (hbefore hnum hx').2 (hbest.key_le x hx hx')
  · obtain ⟨r', hbest', hr'⟩ := hnumbers (fun h => hxs (List.nil_perm.1 (h ▸ hperm)))
    rw [hr', hbest.eq hkey hzeros (hbest'.perm hperm.symm)]
  · rintro ys zs hys hzs rfl
    obtain ⟨a, ha, hcalla⟩ := hnumbers hys
    obtain ⟨b, hb, hcallb⟩ := hnumbers hzs
    refine ⟨a, b, hcalla, hcallb, ?_⟩
    rw [hcall, hbest.eq hkey hzeros (ha.append hb)]
    rfl

/-- Two of four arguments are no numbers, and of the others -7 is the least: in whatever order the
four are given, and when the least is taken of the first two, of the last two, and of what these
come to. -/
theorem call_extremum_negative :
    let xs : List Float := [0 / 0, 2, -7, 0 / 0]
    let g := Builtin.min.function 4
    let host : Host Unit := ⟨fun _ _ _ => ⟨.ok .nil, (), []⟩⟩
    (Environment.prelude 0).get "min" = .function g ∧ xs ≠ [] ∧ ¬ ((0 : Float) ∈ xs ∧ -0 ∈ xs) ∧
      (∀ ys : List Float, ys.Perm xs →
        g.call host (ys.map .number) ⟨(), #[]⟩ = .ok (.number (-7)) ⟨(), #[]⟩) ∧
      ∃ a b, g.call host [.number (0 / 0), .number 2] ⟨(), #[]⟩ = .ok (.number a) ⟨(), #[]⟩ ∧
        g.call host [.number (-7), .number (0 / 0)] ⟨(), #[]⟩ = .ok (.number b) ⟨(), #[]⟩ ∧
        g.call host [.number a, .number b] ⟨(), #[]⟩ = .ok (.number (-7)) ⟨(), #[]⟩ := by
  intro xs g host
  have hg : (Environment.prelude 0).get "min" = .function g := rfl
  have hxs : xs ≠ [] := List.cons_ne_nil _ _
  have hzeros : ¬ ((0 : Float) ∈ xs ∧ -0 ∈ xs) := by
    simp only [xs, List.mem_cons, List.not_mem_nil]
    decide +kernel
  obtain ⟨r, -, hr, -, -, hperm, hcut⟩ :=
    (call_extremum .min hg host ⟨(), #[]⟩).2.2 xs hxs hzeros
  have hvalue : g.call host (xs.map .number) ⟨(), #[]⟩ = .ok (.number (-7)) ⟨(), #[]⟩ := by
    have hleast : pick lesser (xs.map .number) = .ok (-7) := by decide +kernel
    have hcompute : compute .min (xs.map .number) = (pick lesser (xs.map .number)).map .number :=
      rfl
    rw [@Function.call_prelude Unit 0 g .min hg _ (fun _ h => by cases h), apply, hcompute, hleast]
    rfl
  have hleast : -7 = r := Value.number.inj (EStateM.Result.ok.inj (hvalue.symm.trans hr)).1
  subst hleast
  exact ⟨hg, hxs, hzeros, hperm, hcut [0 / 0, 2] [-7, 0 / 0] (by decide) (by decide) rfl⟩

end Reckoner.Builtin
