import Mathlib.Data.List.Forall2
import Reckoner.CommandLine.Arguments

/-!
# Reckoner — reading options

Options that bind names may be written in two ways, and stand among each other, the flag and the
operand in any order (`Gives`). Reading them comes to the same as looking at their texts one after
the other (`bindAll`), whether a text is looked at when it is read or only later (`Gives.reads`).
-/

namespace Reckoner.CommandLine

open ArgumentLevel

-- ---------------------------------------------------------------------------
-- Texts that are bindings
-- ---------------------------------------------------------------------------

/-- The bindings that texts stand for, or the refusal of the first that is none. -/
def bindAll (texts : List String) : Except UsageError (List Binding) :=
  texts.mapM fun text => (Binding.parse text).mapError (.badBinding text)

theorem bindAll_cons (text : String) (texts : List String) :
    bindAll (text :: texts) = (do
      let b ← (Binding.parse text).mapError (.badBinding text)
      return b :: (← bindAll texts)) :=
  List.mapM_cons

/-- Either all texts are bindings, or one that is not is refused. -/
theorem bindAll_spec (texts : List String) :
    (∃ bs, bindAll texts = .ok bs ∧
      List.Forall₂ (fun text b => Binding.parse text = .ok b) texts bs) ∨
    ∃ text ∈ texts, ∃ fault, Binding.parse text = .error fault ∧
      bindAll texts = .error (.badBinding text fault) := by
  induction texts with
  | nil => exact .inl ⟨[], rfl, .nil⟩
  | cons text texts ih =>
    rw [bindAll_cons]
    cases hparse : Binding.parse text with
    | error fault => exact .inr ⟨text, List.mem_cons_self .., fault, hparse, rfl⟩
    | ok b =>
      rcases ih with ⟨bs, hall, hbs⟩ | ⟨bad, hmem, fault, hbad, hall⟩
      · rw [hall]
        exact .inl ⟨b :: bs, rfl, .cons hparse hbs⟩
      · rw [hall]
        exact .inr ⟨bad, List.mem_cons_of_mem _ hmem, fault, hbad, rfl⟩

/-- Where all texts are bindings, each of them is. -/
theorem exists_of_parsed {texts : List String} {bs : List Binding}
    (h : List.Forall₂ (fun text b => Binding.parse text = .ok b) texts bs) :
    ∀ text ∈ texts, ∃ b, Binding.parse text = .ok b := by
  induction h with
  | nil => exact fun _ h => absurd h List.not_mem_nil
  | cons hb _ ih => exact List.forall_mem_cons.2 ⟨⟨_, hb⟩, ih⟩

namespace Gathered

/-- What has been looked at, with more bindings, the flag and an operand. -/
def adding (s : Gathered) (texts : List String) (bare : Bool) (operand : Option String) :
    Except UsageError Gathered := do
  return ⟨s.bindings ++ (← bindAll texts), s.bare || bare, s.operand.or operand, .nothing⟩

/-- The same, once what is pending has been looked at. -/
def giving (g : Gathered) (texts : List String) (bare : Bool) (operand : Option String) :
    Except UsageError Gathered := do
  (← g.settle).adding texts bare operand

end Gathered

-- ---------------------------------------------------------------------------
-- The forms of options
-- ---------------------------------------------------------------------------

/-- Arguments that give texts to bind, maybe the flag, and maybe an operand, in any order. -/
inductive Gives : List String → List String → Bool → Option String → Prop
  | nothing : Gives [] [] false none
  | joined {args texts : List String} {bare : Bool} {operand : Option String} (text : String)
      (h : Gives args texts bare operand) :
      Gives (("--var=" ++ text) :: args) (text :: texts) bare operand
  | apart {args texts : List String} {bare : Bool} {operand : Option String} {text : String}
      (hplain : ArgumentForm.of text = .plain) (h : Gives args texts bare operand) :
      Gives ("--var" :: text :: args) (text :: texts) bare operand
  | bare {args texts : List String} {operand : Option String} (h : Gives args texts false operand) :
      Gives ("--bare" :: args) texts true operand
  | operand {args texts : List String} {bare : Bool} {text : String}
      (hplain : ArgumentForm.of text = .plain) (h : Gives args texts bare none) :
      Gives (text :: args) texts bare (some text)

/-- Behind the equals sign of an option stands its text, further equals signs included. -/
theorem ArgumentForm.of_joined (text : String) :
    ArgumentForm.of ("--var=" ++ text) = .long "var" (some text) := by
  have hchars : ("--var=" ++ text).toList =
      '-' :: '-' :: 'v' :: 'a' :: 'r' :: '=' :: text.toList := by
    rw [String.toList_append]
    rfl
  unfold ArgumentForm.of
  rw [hchars]
  show ArgumentForm.long "var" (some (String.ofList text.toList)) = _
  rw [String.ofList_toList]

/-- No command starts with a hyphen. -/
theorem CommandName.ofString?_hyphen {arg : String} (h : arg.toList.head? = some '-') :
    CommandName.ofString? arg = none := by
  unfold CommandName.ofString?
  split <;> first | rfl | cases h

-- ---------------------------------------------------------------------------
-- Reading one option
-- ---------------------------------------------------------------------------

namespace ArgumentLevel

variable {level : ArgumentLevel} {g : Gathered}

/-- A command is read only in front of all commands, and not as the text of a binding. -/
theorem no_command {arg : String}
    (h : CommandName.ofString? arg = none ∨ level.isTop = false ∨ g.pending = .binding none) :
    (if level.isTop ∧ g.pending ≠ .binding none then CommandName.ofString? arg else none) =
      none := by
  split
  · next hif =>
    rcases h with h | h | h
    · exact h
    · exact absurd hif.1 (by rw [h]; decide)
    · exact absurd h hif.2
  · rfl

/-- An option with its text settles what is pending and is accepted at once. -/
theorem read_joined (text : String) (rest : List String) :
    read level false g (("--var=" ++ text) :: rest) =
      (do read level false (← (← g.settle).bind text) rest) := by
  have hcommand : CommandName.ofString? ("--var=" ++ text) = none :=
    CommandName.ofString?_hyphen (by rw [String.toList_append]; rfl)
  rw [read, ArgumentForm.of_joined, if_neg Bool.false_ne_true]
  split
  · next h => cases (no_command (.inl hcommand)).symm.trans h
  · rfl

/-- An option apart from its text is left pending with it. -/
theorem read_apart {text : String} (hplain : ArgumentForm.of text = .plain) (rest : List String) :
    read level false g ("--var" :: text :: rest) =
      (do read level false { ← g.settle with pending := .binding (some text) } rest) := by
  have hform : ArgumentForm.of "--var" = .long "var" none := rfl
  have hvalue (s : Gathered) :
      read level false { s with pending := .binding none } (text :: rest) =
        read level false { s with pending := .binding (some text) } rest := by
    rw [read, hplain, if_neg Bool.false_ne_true]
    split
    · next h => cases (no_command (.inr (.inr rfl))).symm.trans h
    · rfl
  rw [read, hform, if_neg Bool.false_ne_true]
  split
  · next h => cases (no_command (.inl rfl)).symm.trans h
  · simp only [hvalue]

/-- The flag settles what is pending, and is accepted if it has not been given before. -/
theorem read_bare (hbare : ∀ s, g.settle = .ok s → s.bare = false) (rest : List String) :
    read level false g ("--bare" :: rest) =
      (do read level false { ← g.settle with bare := true } rest) := by
  have hform : ArgumentForm.of "--bare" = .long "bare" none := rfl
  have hread : read level false g ("--bare" :: rest) = (do
      let s ← g.settle
      if s.bare then .error (.repeatedFlag "--bare")
      else read level false { s with bare := true } rest) := by
    rw [read, hform, if_neg Bool.false_ne_true]
    split
    · next h => cases (no_command (.inl rfl)).symm.trans h
    · rfl
  rw [hread]
  cases hs : g.settle with
  | error e => rfl
  | ok s => exact if_neg (by rw [hbare s hs]; decide)

/-- An operand settles what is pending and is itself left pending. -/
theorem read_operand {kind : Operand} {text : String} (hplain : ArgumentForm.of text = .plain)
    (hpending : g.pending ≠ .binding none) (hnone : g.hasOperand = false) (rest : List String) :
    read (.command (some kind)) false g (text :: rest) = (do
      read (.command (some kind)) false
        { ← g.settle with pending := .operand kind text } rest) := by
  rw [read, hplain, if_neg Bool.false_ne_true]
  split
  · next h => cases (no_command (.inr (.inl rfl))).symm.trans h
  · let settled : Except UsageError Gathered :=
      if g.hasOperand then .error (.unexpectedArgument text)
      else g.settle.map fun s => { s with pending := .operand kind text }
    show (if g.pending = .binding none then _
      else do read (.command (some kind)) false (← settled) rest) = _
    rw [if_neg hpending]
    simp only [settled, hnone, Bool.false_eq_true, if_false]
    cases g.settle <;> rfl

/-- At a command the reading stops. -/
theorem read_command {word : String} {name : CommandName}
    (hname : CommandName.ofString? word = some name) (hpending : g.pending ≠ .binding none)
    (rest : List String) :
    read .top false g (word :: rest) = .ok (g, .command name rest) := by
  rw [read, if_neg Bool.false_ne_true]
  split
  · next found h =>
    have hfound : (if ArgumentLevel.top.isTop ∧ g.pending ≠ .binding none
      then CommandName.ofString? word else none) = some found := h
    rw [if_pos ⟨rfl, hpending⟩, hname] at hfound
    cases hfound
    rfl
  · next h =>
    have hnone : (if ArgumentLevel.top.isTop ∧ g.pending ≠ .binding none
      then CommandName.ofString? word else none) = none := h
    rw [if_pos ⟨rfl, hpending⟩, hname] at hnone
    cases hnone

end ArgumentLevel

-- ---------------------------------------------------------------------------
-- Reading many options
-- ---------------------------------------------------------------------------

namespace Gathered

variable {g s s' : Gathered} {texts : List String} {bare : Bool} {operand : Option String}

/-- Only a binding is accepted, and it is put behind those before it. -/
theorem bind_ok {text : String} (h : s.bind text = .ok s') :
    ∃ b, Binding.parse text = .ok b ∧ s' = { s with bindings := s.bindings ++ [b] } := by
  unfold bind at h
  cases hparse : Binding.parse text with
  | error fault =>
    rw [hparse] at h
    cases h
  | ok b =>
    rw [hparse] at h
    cases h
    exact ⟨b, rfl, rfl⟩

/-- With nothing pending there is nothing to settle. -/
theorem settle_of_pending_eq (h : s.pending = .nothing) : s.settle = .ok s := by
  obtain ⟨bindings, bare, operand, pending⟩ := s
  cases h
  rfl

/-- An operand is accepted, unless it is a path without a name. -/
theorem settle_operand {kind : Operand} {text : String} (s : Gathered) :
    settle { s with pending := .operand kind text } =
      if kind = .path ∧ text = "" then .error (.missingValue Operand.path.label)
      else .ok { s with operand := some text, pending := .nothing } := by
  cases kind with
  | expression => rfl
  | path =>
    by_cases h : text = ""
    · subst h
      rfl
    · rw [if_neg fun hboth => h hboth.2]
      unfold settle
      split
      · next hpending => cases hpending
      · next hpending => cases hpending
      · next hpending => cases hpending
      · next hpending =>
        cases hpending
        exact absurd rfl h
      · next hpending =>
        cases hpending
        rfl

/-- What settling leaves as it is. -/
theorem settle_ok (h : g.settle = .ok s) :
    s.pending = .nothing ∧ s.bare = g.bare ∧ s.hasOperand = g.hasOperand := by
  obtain ⟨bindings, bare, operand, pending⟩ := g
  cases pending with
  | nothing =>
    cases h
    exact ⟨rfl, rfl, rfl⟩
  | binding text =>
    cases text with
    | none => cases h
    | some text =>
      obtain ⟨b, -, rfl⟩ := bind_ok h
      exact ⟨rfl, rfl, rfl⟩
  | operand kind text =>
    rw [settle_operand ⟨bindings, bare, operand, .nothing⟩] at h
    split at h
    · cases h
    · cases h
      exact ⟨rfl, rfl, (Bool.or_true _).symm⟩

theorem adding_nothing (h : s.pending = .nothing) : s.adding [] false none = .ok s := by
  obtain ⟨bindings, bare, operand, pending⟩ := s
  cases h
  show Except.ok (⟨bindings ++ [], bare || false, operand.or none, .nothing⟩ : Gathered) = _
  rw [List.append_nil, Bool.or_false, Option.or_none]

/-- Texts are looked at from the first to the last. -/
theorem adding_cons (s : Gathered) (text : String) :
    s.adding (text :: texts) bare operand = (do (← s.bind text).adding texts bare operand) := by
  unfold bind adding
  rw [bindAll_cons]
  cases Binding.parse text with
  | error fault => rfl
  | ok b =>
    cases bindAll texts with
    | error e => rfl
    | ok bs =>
      show Except.ok (⟨s.bindings ++ b :: bs, _, _, _⟩ : Gathered) =
        .ok ⟨s.bindings ++ [b] ++ bs, _, _, _⟩
      rw [List.append_assoc]
      rfl

/-- Once everything has been looked at, there is nothing more to look at. -/
theorem giving_eq_adding (h : s.pending = .nothing) :
    s.giving texts bare operand = s.adding texts bare operand := by
  unfold giving
  rw [settle_of_pending_eq h]
  rfl

/-- A text may be accepted first and the others looked at later. -/
theorem giving_bind (h : s.pending = .nothing) (text : String) :
    (do (← s.bind text).giving texts bare operand) = s.adding (text :: texts) bare operand := by
  rw [adding_cons]
  cases hbind : s.bind text with
  | error e => rfl
  | ok s' =>
    obtain ⟨b, -, rfl⟩ := bind_ok hbind
    exact giving_eq_adding h

/-- A text may also be left pending. -/
theorem giving_binding (h : s.pending = .nothing) (text : String) :
    giving { s with pending := .binding (some text) } texts bare operand =
      s.adding (text :: texts) bare operand := by
  obtain ⟨bindings, b, o, pending⟩ := s
  cases h
  rw [adding_cons]
  rfl

/-- So may the flag be accepted first. -/
theorem giving_bare (h : s.pending = .nothing) (hbare : s.bare = false) :
    giving { s with bare := true } texts false operand = s.adding texts true operand := by
  refine (@giving_eq_adding { s with bare := true } _ _ _ h).trans ?_
  unfold adding
  simp only [hbare, Bool.false_or, Bool.or_false]

/-- An operand that is left pending is accepted in the end, unless it is an empty path. -/
theorem giving_operand (hnone : s.operand = none) {kind : Operand} {text : String}
    (hpath : kind = .path → text ≠ "") :
    giving { s with pending := .operand kind text } texts bare none =
      s.adding texts bare (some text) := by
  unfold giving adding
  rw [settle_operand, if_neg fun h => hpath h.1 h.2, hnone]
  rfl

end Gathered

-- ---------------------------------------------------------------------------
-- Many options
-- ---------------------------------------------------------------------------

/-- What the reading of some arguments comes to: a refusal, whatever stands behind them, or a
state from which the rest is read, and in which what has been given is looked at with the same
result. -/
def Reads (level : ArgumentLevel) (g : Gathered) (args : List String)
    (given : Except UsageError Gathered) : Prop :=
  (∃ e, given = .error e ∧ ∀ rest, read level false g (args ++ rest) = .error e) ∨
  ∃ g', g'.pending ≠ .binding none ∧ g'.settle = given ∧
    ∀ rest, read level false g (args ++ rest) = read level false g' rest

/-- What is pending is looked at, an option is read, and then the rest. -/
theorem Reads.step {level : ArgumentLevel} {g : Gathered} {front args texts texts' : List String}
    {bare bare' : Bool} {operand operand' : Option String}
    {next : Gathered → Except UsageError Gathered}
    (hread : ∀ rest, read level false g (front ++ rest) = (do
      let s ← g.settle
      read level false (← next s) rest))
    (hgiven : ∀ s, g.settle = .ok s →
      (do (← next s).giving texts' bare' operand') = s.adding texts bare operand)
    (h : ∀ s s', g.settle = .ok s → next s = .ok s' →
      Reads level s' args (s'.giving texts' bare' operand')) :
    Reads level g (front ++ args) (g.giving texts bare operand) := by
  unfold Gathered.giving
  cases hsettle : g.settle with
  | error e =>
    refine .inl ⟨e, rfl, fun rest => ?_⟩
    rw [List.append_assoc, hread, hsettle]
    rfl
  | ok s =>
    have hadding := hgiven s hsettle
    have hnow (rest : List String) : read level false g (front ++ args ++ rest) =
        (do read level false (← next s) (args ++ rest)) := by
      rw [List.append_assoc, hread, hsettle]
      rfl
    cases hnext : next s with
    | error e =>
      rw [hnext] at hadding
      refine .inl ⟨e, hadding.symm, fun rest => ?_⟩
      rw [hnow, hnext]
      rfl
    | ok s' =>
      rw [hnext] at hadding
      have hrest (rest : List String) :
          read level false g (front ++ args ++ rest) = read level false s' (args ++ rest) := by
        rw [hnow, hnext]
        rfl
      rcases h s s' hsettle hnext with ⟨e, he, hrefused⟩ | ⟨g', hpending, hsame, hgoes⟩
      · exact .inl ⟨e, hadding.symm.trans he, fun rest => (hrest rest).trans (hrefused rest)⟩
      · exact .inr ⟨g', hpending, hsame.trans hadding,
          fun rest => (hrest rest).trans (hgoes rest)⟩

/-- What must hold for arguments to be read: no option waits for its text, the flag is not given
twice, and an operand is one that the command takes. -/
structure Ready (level : ArgumentLevel) (g : Gathered) (bare : Bool) (operand : Option String) :
    Prop where
  pending : g.pending ≠ .binding none
  bare : bare = true → g.bare = false
  operand : ∀ text, operand = some text →
    g.hasOperand = false ∧ ∃ kind, level = .command (some kind) ∧ (kind = .path → text ≠ "")

/-- Looking at what is pending leaves everything ready. -/
theorem Ready.next {level : ArgumentLevel} {g s s' : Gathered} {bare : Bool}
    {operand : Option String} (h : Ready level g bare operand) (hs : g.settle = .ok s)
    (hpending : s'.pending ≠ .binding none) (hbare : s'.bare = s.bare)
    (hhas : s'.hasOperand = s.hasOperand) : Ready level s' bare operand := by
  obtain ⟨-, hbare', hhas'⟩ := Gathered.settle_ok hs
  refine ⟨hpending, fun h' => ?_, fun text htext => ?_⟩
  · rw [hbare, hbare', h.bare h']
  · rw [hhas, hhas']
    exact h.operand text htext

/-- Where all is ready for them, arguments come to what they give: the refusal of the first text
that is no binding, or a state that settles to all of it. -/
theorem Gives.reads {level : ArgumentLevel} {args texts : List String} {bare : Bool}
    {operand : Option String} (h : Gives args texts bare operand) {g : Gathered}
    (hready : Ready level g bare operand) :
    Reads level g args (g.giving texts bare operand) := by
  induction h generalizing g with
  | nothing =>
    refine .inr ⟨g, hready.pending, ?_, fun rest => rfl⟩
    unfold Gathered.giving
    cases hsettle : g.settle with
    | error e => rfl
    | ok s => exact (Gathered.adding_nothing (Gathered.settle_ok hsettle).1).symm
  | @joined args texts bare operand text h ih =>
    refine @Reads.step _ _ ["--var=" ++ text] _ _ texts _ bare _ operand (·.bind text)
      (read_joined text) (fun s hs => Gathered.giving_bind (Gathered.settle_ok hs).1 text)
      (fun s s' hs hs' => ih ?_)
    obtain ⟨b, -, rfl⟩ := Gathered.bind_ok hs'
    have hnothing := (Gathered.settle_ok hs).1
    exact hready.next hs (by rw [hnothing]; nofun) rfl rfl
  | @apart args texts bare operand text hplain h ih =>
    refine @Reads.step _ _ ["--var", text] _ _ texts _ bare _ operand
      (fun s => .ok { s with pending := .binding (some text) })
      (read_apart hplain) (fun s hs => Gathered.giving_binding (Gathered.settle_ok hs).1 text)
      (fun s s' hs hs' => ih ?_)
    cases hs'
    have hnothing := (Gathered.settle_ok hs).1
    exact hready.next hs nofun rfl (by rw [Gathered.hasOperand, Gathered.hasOperand, hnothing])
  | @bare args texts operand h ih =>
    have hbare {s : Gathered} (hs : g.settle = .ok s) : s.bare = false :=
      (Gathered.settle_ok hs).2.1.trans (hready.bare rfl)
    refine @Reads.step _ _ ["--bare"] _ _ texts _ false _ operand
      (fun s => .ok { s with bare := true }) (read_bare fun s => hbare)
      (fun s hs => Gathered.giving_bare (Gathered.settle_ok hs).1 (hbare hs))
      (fun s s' hs hs' => ih ?_)
    cases hs'
    obtain ⟨hnothing, -, hhas⟩ := Gathered.settle_ok hs
    refine ⟨fun h => ?_, nofun, fun text htext => ?_⟩
    · cases hnothing.symm.trans h
    · obtain ⟨hnone, hkind⟩ := hready.operand text htext
      exact ⟨hhas.trans hnone, hkind⟩
  | @operand args texts bare text hplain h ih =>
    obtain ⟨hnone, kind, rfl, hpath⟩ := hready.operand text rfl
    have hoperand {s : Gathered} (hs : g.settle = .ok s) : s.operand = none := by
      obtain ⟨-, -, hhas⟩ := Gathered.settle_ok hs
      rw [hnone] at hhas
      exact Option.isNone_iff_eq_none.1
        (Option.isSome_eq_false_iff.1 (Bool.or_eq_false_iff.1 hhas).1)
    refine @Reads.step _ _ [text] _ _ texts _ bare _ none
      (fun s => .ok { s with pending := .operand kind text })
      (read_operand hplain hready.pending hnone)
      (fun s hs => Gathered.giving_operand (hoperand hs) hpath) (fun s s' hs hs' => ih ?_)
    cases hs'
    exact ⟨nofun, fun h => (Gathered.settle_ok hs).2.1.trans (hready.bare h), nofun⟩

end Reckoner.CommandLine
