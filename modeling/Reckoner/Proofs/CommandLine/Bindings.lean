import Reckoner.CommandLine.Run
import Reckoner.Proofs.CommandLine.Handing
import Reckoner.Proofs.Environment.Prelude
import Reckoner.Proofs.Evaluation.Gist
import Reckoner.Proofs.Grammar.Writing
import Reckoner.Proofs.Source.Reading
import Reckoner.Proofs.Text.Trimming

/-!
# Reckoner — what a name means on the command line

A text binds the name in front of its first equals sign to what stands behind it (`Binds`), or it
is refused (`Malformed`). What stands behind it is one of three words, a number, or a string
(`StandsFor`). A name means what the last text that binds it says, and else the function of the
prelude that has this name (`Means`).

Main results:

* `parse_eq_ok_iff`, `exists_parse_error_iff` — which texts are bindings, and of what;
* `decode_eq_iff` — the values that they bind;
* `Means.get_eq` — the environment of the command line gives names their meaning;
* `environment_names` — the names that it lists;
* `names_mean_bindings` — all of this from the arguments of the program on.
-/

namespace Reckoner.CommandLine

-- ---------------------------------------------------------------------------
-- One text
-- ---------------------------------------------------------------------------

/-- A text binds a name to what it says: the first equals sign stands between them, and there may
be white space around the name. -/
def Binds (text name said : String) : Prop :=
  ∃ lead trail, text = lead ++ name ++ trail ++ "=" ++ said ∧
    '=' ∉ (lead ++ name ++ trail).toList ∧ (∀ c ∈ lead.toList, Text.isWhiteSpace c) ∧
    Text.Trimmed name.toList ∧ (∀ c ∈ trail.toList, Text.isWhiteSpace c) ∧ name ≠ ""

/-- A text binds nothing: it has no equals sign, or only white space in front of the first. -/
inductive Malformed : String → Prop
  | noEquals {text : String} (h : '=' ∉ text.toList) : Malformed text
  | noName {before : String} (value : String) (h : ∀ c ∈ before.toList, Text.isWhiteSpace c) :
      Malformed (before ++ "=" ++ value)

namespace Binding

variable {text before value name : String} {b : Binding}

/-- Without an equals sign a text is refused. -/
theorem parse_of_not_mem (h : '=' ∉ text.toList) : parse text = .error (.noEquals text) := by
  have hdrop : text.toList.dropWhile (· ≠ '=') = [] :=
    List.dropWhile_eq_nil_iff.2 fun c hc => decide_eq_true fun heq => h (heq ▸ hc)
  unfold parse
  simp only [hdrop]

theorem trim_eq_empty_iff : Text.trim before = "" ↔ Text.trimChars before.toList = [] :=
  String.ofList_eq_empty_iff

/-- The first equals sign divides a text, whatever stands behind it. -/
theorem parse_append (h : '=' ∉ before.toList) (value : String) :
    parse (before ++ "=" ++ value) =
      if Text.trim before = "" then .error .noName else .ok ⟨Text.trim before, value⟩ := by
  have hchars : (before ++ "=" ++ value).toList = before.toList ++ '=' :: value.toList := by
    rw [String.toList_append, String.toList_append, List.append_assoc]
    rfl
  have hfront : ∀ c ∈ before.toList, decide (c ≠ '=') = true :=
    fun c hc => decide_eq_true fun heq => h (heq ▸ hc)
  unfold parse
  simp only [hchars]
  rw [List.dropWhile_append_of_pos hfront, List.dropWhile_cons_of_neg (by decide),
    List.takeWhile_append_of_pos hfront, List.takeWhile_cons_of_neg (by decide), List.append_nil]
  simp only [String.ofList_toList]
  exact if_congr trim_eq_empty_iff.symm rfl rfl

/-- A text with an equals sign has a first one. -/
theorem exists_first_equals (h : '=' ∈ text.toList) :
    ∃ before value, text = before ++ "=" ++ value ∧ '=' ∉ before.toList := by
  obtain ⟨front, behind, hsplit, hfront⟩ := List.eq_append_cons_of_mem h
  refine ⟨String.ofList front, String.ofList behind, ?_, by rwa [String.toList_ofList]⟩
  rw [← @String.ofList_toList text, hsplit, List.append_cons, String.ofList_append,
    String.ofList_append]

/-- What is in front of the first equals sign is the name, with the white space around it. -/
theorem binds_iff : Binds text name value ↔
    ∃ before, text = before ++ "=" ++ value ∧ '=' ∉ before.toList ∧ Text.trim before = name ∧
      name ≠ "" := by
  constructor
  · rintro ⟨lead, trail, htext, hbefore, hlead, htrimmed, htrail, hne⟩
    exact ⟨_, htext, hbefore, Text.trim_eq_iff.2 ⟨lead, trail, rfl, hlead, htrimmed, htrail⟩, hne⟩
  · rintro ⟨before, htext, hbefore, hname, hne⟩
    obtain ⟨lead, trail, rfl, hlead, htrimmed, htrail⟩ := Text.trim_eq_iff.1 hname
    exact ⟨lead, trail, htext, hbefore, hlead, htrimmed, htrail, hne⟩

/-- A text that is a binding binds its name. -/
theorem parse_eq_ok_iff : parse text = .ok b ↔ Binds text b.name b.text := by
  rw [binds_iff]
  constructor
  · intro h
    by_cases hmem : '=' ∈ text.toList
    · obtain ⟨before, value, rfl, hbefore⟩ := exists_first_equals hmem
      rw [parse_append hbefore] at h
      split at h
      · cases h
      · next hname =>
        cases h
        exact ⟨before, rfl, hbefore, rfl, hname⟩
    · rw [parse_of_not_mem hmem] at h
      cases h
  · rintro ⟨before, rfl, hbefore, hname, hne⟩
    rw [parse_append hbefore, if_neg (by rwa [hname]), hname]

/-- A text that is no binding binds nothing. -/
theorem exists_parse_error_iff : (∃ fault, parse text = .error fault) ↔ Malformed text := by
  constructor
  · rintro ⟨fault, h⟩
    by_cases hmem : '=' ∈ text.toList
    · obtain ⟨before, value, rfl, hbefore⟩ := exists_first_equals hmem
      rw [parse_append hbefore] at h
      split at h
      · next hname => exact .noName value (Text.trimChars_eq_nil_iff.1 (trim_eq_empty_iff.1 hname))
      · cases h
    · exact .noEquals hmem
  · intro h
    cases h with
    | noEquals h => exact ⟨_, parse_of_not_mem h⟩
    | @noName before value h =>
      have hbefore : '=' ∉ before.toList := fun hmem => absurd (h _ hmem) (by decide)
      have hname : Text.trim before = "" := trim_eq_empty_iff.2 (Text.trimChars_eq_nil_iff.2 h)
      exact ⟨.noName, by rw [parse_append hbefore, if_pos hname]⟩

theorem parse_isOk_eq_false_iff : (parse text).isOk = false ↔ Malformed text := by
  rw [← exists_parse_error_iff]
  cases parse text with
  | error fault => exact iff_of_true rfl ⟨fault, rfl⟩
  | ok b => exact iff_of_false Bool.noConfusion fun ⟨_, h⟩ => by cases h

end Binding

instance (text : String) : Decidable (Malformed text) :=
  decidable_of_iff _ Binding.parse_isOk_eq_false_iff

-- ---------------------------------------------------------------------------
-- Values
-- ---------------------------------------------------------------------------

/-- The value that a text stands for: each of three words has a value of its own, any other text
is the number that it reads as, and one that reads as no number is a string, with the white space
around it. -/
inductive StandsFor : String → Value → Prop
  | true : StandsFor "true" (.bool Bool.true)
  | false : StandsFor "false" (.bool Bool.false)
  | nil : StandsFor "nil" .nil
  | number {text : String} {x : Float} (hword : text ∉ ["true", "false", "nil"])
      (h : Number.ofText? text = some x) : StandsFor text (.number x)
  | string {text : String} (hword : text ∉ ["true", "false", "nil"])
      (h : Number.ofText? text = none) : StandsFor text (.string text)

/-- Any text but the three words is decoded as a number or, failing that, as itself. -/
theorem Binding.decode_of_not_mem {text : String} (h : text ∉ ["true", "false", "nil"]) :
    decode text = ((Number.ofText? text).map Value.number).getD (.string text) := by
  fun_cases decode text with
  | case1 => exact absurd List.mem_cons_self h
  | case2 => exact absurd (by decide) h
  | case3 => exact absurd (by decide) h
  | case4 text _ _ _ x hx =>
    rw [hx]
    rfl
  | case5 text _ _ _ hx =>
    rw [hx]
    rfl

/-- What is decoded of a text is the value that it stands for. -/
theorem Binding.decode_eq_iff {text : String} {v : Value} :
    decode text = v ↔ StandsFor text v := by
  constructor
  · rintro rfl
    by_cases hword : text ∈ ["true", "false", "nil"]
    · simp only [List.mem_cons, List.not_mem_nil, or_false] at hword
      rcases hword with rfl | rfl | rfl
      · exact .true
      · exact .false
      · exact .nil
    · rw [decode_of_not_mem hword]
      cases h : Number.ofText? text with
      | some x => exact .number hword h
      | none => exact .string hword h
  · intro h
    cases h with
    | true | false | nil => rfl
    | number hword h | string hword h =>
      rw [decode_of_not_mem hword, h]
      rfl

-- ---------------------------------------------------------------------------
-- Many texts
-- ---------------------------------------------------------------------------

/-- A text binds a name. -/
def Mentions (text name : String) : Prop := ∃ said, Binds text name said

/-- The name that a text mentions is the name of its binding. -/
theorem mentions_iff {text name : String} :
    Mentions text name ↔ (Binding.parse text).toOption.map Binding.name = some name := by
  constructor
  · rintro ⟨said, h⟩
    have hparse : Binding.parse text = .ok ⟨name, said⟩ := Binding.parse_eq_ok_iff.2 h
    rw [hparse]
    rfl
  · intro h
    cases hparse : Binding.parse text with
    | error fault =>
      rw [hparse] at h
      cases h
    | ok b =>
      rw [hparse] at h
      cases h
      exact ⟨b.text, Binding.parse_eq_ok_iff.1 hparse⟩

/-- A text mentions one name only. -/
theorem Mentions.name_eq {text name other : String} (h : Mentions text name)
    (h' : Mentions text other) : name = other :=
  Option.some.inj ((mentions_iff.1 h).symm.trans (mentions_iff.1 h'))

instance (text name : String) : Decidable (Mentions text name) :=
  decidable_of_iff _ mentions_iff.symm

/-- The names of the functions of the prelude in the order of their installation, unless they are
left out. -/
def knownNames (bare : Bool) : List String :=
  if bare then []
  else ["abs", "floor", "ceil", "sqrt", "min", "max", "len", "upper", "lower", "trim", "str", "num"]

/-- What a name means where texts are bound: what the last text that binds it says, and without
such a text the function of the prelude that has this name, or nil. -/
inductive Means (texts : List String) (bare : Bool) : String → Value → Prop
  | bound {earlier later : List String} {text name said : String} {v : Value}
      (htexts : texts = earlier ++ text :: later) (h : Binds text name said)
      (hlater : ∀ t ∈ later, ¬ Mentions t name) (hsaid : StandsFor said v) :
      Means texts bare name v
  | builtin {b : Builtin} (hunbound : ∀ t ∈ texts, ¬ Mentions t b.name) (hbare : bare = false) :
      Means texts bare b.name (.function ⟨b.name, b.arity, .builtin b, Builtin.all.idxOf b⟩)
  | nothing {name : String} (hunbound : ∀ t ∈ texts, ¬ Mentions t name)
      (h : name ∉ knownNames bare) : Means texts bare name .nil

/-- These are the names of the functions of the library. -/
theorem mem_knownNames_iff {bare : Bool} {name : String} :
    name ∈ knownNames bare ↔ bare = false ∧ ∃ b : Builtin, b.name = name := by
  cases bare with
  | true => simp [knownNames]
  | false =>
    show name ∈ Builtin.all.map Builtin.name ↔ _
    rw [List.mem_map]
    refine ⟨fun ⟨b, _, hname⟩ => ⟨rfl, b, hname⟩, fun ⟨_, b, hname⟩ => ⟨b, ?_, hname⟩⟩
    cases b <;> decide

/-- Some text is the last that mentions a name, or none does. -/
theorem exists_last_or (texts : List String) (name : String) :
    (∃ earlier text later, texts = earlier ++ text :: later ∧ Mentions text name ∧
      ∀ t ∈ later, ¬ Mentions t name) ∨ ∀ t ∈ texts, ¬ Mentions t name := by
  induction texts with
  | nil => exact .inr fun _ h => absurd h List.not_mem_nil
  | cons text texts ih =>
    rcases ih with ⟨earlier, last, later, rfl, hlast⟩ | hnone
    · exact .inl ⟨text :: earlier, last, later, rfl, hlast⟩
    · by_cases h : Mentions text name
      · exact .inl ⟨[], text, texts, rfl, h, hnone⟩
      · exact .inr (List.forall_mem_cons.2 ⟨h, hnone⟩)

/-- Every name has a meaning. -/
theorem exists_means (texts : List String) (bare : Bool) (name : String) :
    ∃ v, Means texts bare name v := by
  rcases exists_last_or texts name with ⟨earlier, text, later, htexts, ⟨said, h⟩, hlater⟩ | hnone
  · exact ⟨_, .bound htexts h hlater (Binding.decode_eq_iff.1 rfl)⟩
  by_cases hknown : name ∈ knownNames bare
  · obtain ⟨hbare, b, rfl⟩ := mem_knownNames_iff.1 hknown
    exact ⟨_, .builtin hnone hbare⟩
  · exact ⟨_, .nothing hnone hknown⟩

-- ---------------------------------------------------------------------------
-- The environment of the command line
-- ---------------------------------------------------------------------------

/-- The environment around the names bound on the command line. -/
def surroundings (bare : Bool) : Environment :=
  if bare then .empty else (Environment.prelude 0).inside

/-- What is bound by texts, in their order. -/
def pairsOf (texts : List String) : List (String × Value) :=
  texts.filterMap fun text => (Binding.parse text).toOption.map Binding.pair

theorem pairsOf_cons {text : String} {b : Binding} (h : Binding.parse text = .ok b)
    (texts : List String) : pairsOf (text :: texts) = b.pair :: pairsOf texts := by
  unfold pairsOf
  rw [List.filterMap_cons, h]
  rfl

section

variable {texts : List String} {bs : List Binding} {bare : Bool} {name : String} {v : Value}

/-- Bindings that texts stand for bind what the texts do. -/
theorem map_pair_eq (h : List.Forall₂ (fun text b => Binding.parse text = .ok b) texts bs) :
    bs.map Binding.pair = pairsOf texts := by
  induction h with
  | nil => rfl
  | cons hb _ ih =>
    rw [List.map_cons, ih, pairsOf_cons hb]

/-- A name that no text mentions is not bound. -/
theorem latest?_of_unbound (h : ∀ t ∈ texts, ¬ Mentions t name) :
    latest? (pairsOf texts) name = none := by
  cases hlatest : latest? (pairsOf texts) name with
  | none => rfl
  | some v =>
    obtain ⟨text, htext, hpair⟩ := List.mem_filterMap.1 (mem_of_latest? hlatest)
    have hname := congrArg (Option.map Prod.fst) hpair
    rw [Option.map_map] at hname
    exact absurd (mentions_iff.2 hname) (h text htext)

/-- A name is bound to the value that the last text which mentions it says. -/
theorem latest?_of_bound {earlier later : List String} {text said : String}
    (h : Binds text name said) (hlater : ∀ t ∈ later, ¬ Mentions t name)
    (hsaid : StandsFor said v) :
    latest? (pairsOf (earlier ++ text :: later)) name = some v := by
  have hparse : Binding.parse text = .ok ⟨name, said⟩ := Binding.parse_eq_ok_iff.2 h
  have hpair : Binding.pair ⟨name, said⟩ = (name, v) :=
    congrArg (name, ·) (Binding.decode_eq_iff.2 hsaid)
  have hpairs : pairsOf (earlier ++ text :: later) =
      pairsOf earlier ++ ([(name, v)] ++ pairsOf later) := by
    rw [← hpair, List.singleton_append, ← pairsOf_cons hparse]
    exact List.filterMap_append
  rw [hpairs, latest?_append, latest?_append, latest?_of_unbound hlater, latest?_singleton,
    if_pos rfl]
  rfl

/-- What a name means is what the environment of the command line binds it to. -/
theorem Means.get_eq (h : Means texts bare name v) :
    ((surroundings bare).extend (pairsOf texts)).get name = v := by
  rw [Environment.get_extend]
  cases h with
  | bound htexts h hlater hsaid =>
    rw [htexts, latest?_of_bound h hlater hsaid]
    rfl
  | @builtin b hunbound hbare =>
    rw [latest?_of_unbound hunbound, hbare, Option.getD_none]
    have hprelude := Environment.get_prelude_name b 0
    rw [Nat.zero_add] at hprelude
    exact (congrArg (·.getD .nil) (Environment.find?_inside _ _)).trans hprelude
  | nothing hunbound h =>
    rw [latest?_of_unbound hunbound, Option.getD_none]
    cases bare with
    | true => rfl
    | false =>
      have hnone : (Environment.prelude 0).find? name = none :=
        Environment.find?_prelude_of_not_mem h
      show ((Environment.prelude 0).inside.find? name).getD .nil = .nil
      rw [Environment.find?_inside, hnone]
      rfl

/-- The environment of the command line lists the functions of the prelude first, and then the
other names in the order in which they are first bound. -/
theorem environment_names {names : List String} (h : List.Forall₂ Mentions texts names) :
    ((surroundings bare).extend (pairsOf texts)).names =
      knownNames bare ++ names.eraseDups.filter (· ∉ knownNames bare) := by
  have hfst : (pairsOf texts).map Prod.fst = names := by
    induction h with
    | nil => rfl
    | @cons text name texts names h _ ih =>
      obtain ⟨value, h⟩ := h
      have hparse : Binding.parse text = .ok ⟨name, value⟩ := Binding.parse_eq_ok_iff.2 h
      rw [pairsOf_cons hparse, List.map_cons, ih]
      rfl
  have hown : (Bindings.empty.extend (pairsOf texts)).names = names.eraseDups := by
    rw [Bindings.names_extend_empty, hfst]
  rw [← hown]
  cases bare <;> rfl

end

-- ---------------------------------------------------------------------------
-- The program
-- ---------------------------------------------------------------------------

/-- A name as an expression has the value that it is bound to. -/
theorem evaluateAlone_name {name : String} (h : IsName name) (env : Environment) :
    (evaluateAlone env name).1 = .ok (env.get name) := by
  obtain ⟨t, hsplits, hlexeme⟩ := Token.splits_word h.ofKind .origin
  have hkind := (hsplits.faithful t (List.mem_singleton_self t)).kind_eq hlexeme h.ofKind
  have hsource : Expr.ofSource name = .ok (.var name ⟨t.span, t.line⟩) := by
    have hatom := (Grammar.Derives.atom (.identifier hkind)).toExpression
    rw [hlexeme] at hatom
    exact ofSource_eq_ok_iff.2 ⟨[t], hsplits, hatom⟩
  unfold evaluateAlone
  rw [evaluateSource_of_ok hsource]
  rfl

/-- **What a name means on the command line.** Texts are handed over to a command, with the flag
or without it. If one of them has no equals sign, or only white space in front of the first,
nothing is evaluated: whatever there is to read, the run ends with the report of such a text, as a
usage error. Otherwise every identifier has its meaning: it is evaluated to what the last text
that binds it says, read as a word, a number or a string; else to the function of the prelude, if
there is one and the flag is not given; and else to nil. And `:env` is answered with the names of
the prelude, unless the flag is given, and the other names that are bound, in the order in which
they first appear, each once. -/
theorem names_mean_bindings {args given texts : List String} {bare : Bool} {command : Command}
    (h : HandsOver args given texts bare command) :
    ((∃ text ∈ given, Malformed text) →
      ∃ text ∈ given, Malformed text ∧ ∃ fault, ∀ filter inputs,
        run args filter inputs = (UsageError.badBinding text fault).report ∧
        (run args filter inputs).exit = 2 ∧ (run args filter inputs).output.stdout = "") ∧
    ((∀ text ∈ given, ¬ Malformed text) →
      ∃ inv, Arguments.parse args = .ok (.invoke inv) ∧ inv.command = command ∧
        (∀ name, IsName name → (∃ v, Means texts bare name v) ∧
          ∀ v, Means texts bare name v → (evaluateAlone inv.environment name).1 = .ok v) ∧
        ∃ names, List.Forall₂ Mentions texts names ∧ ∀ filter,
          Interactive.respondTo ⟨inv.environment, filter⟩ ":env" =
            { output := .line (" ".intercalate
              (knownNames bare ++ names.eraseDups.filter (· ∉ knownNames bare))) }) := by
  rcases h.parse with ⟨text, hmem, fault, hbad, hparse⟩ | ⟨bs, hbs, hgood, hparse⟩
  · have hmalformed : Malformed text := Binding.exists_parse_error_iff.1 ⟨fault, hbad⟩
    refine ⟨fun _ => ⟨text, hmem, hmalformed, fault, fun filter inputs => ?_⟩,
      fun hnone => absurd hmalformed (hnone text hmem)⟩
    have hrun : run args filter inputs = (UsageError.badBinding text fault).report := by
      unfold run
      rw [hparse]
    rw [hrun]
    exact ⟨rfl, rfl, rfl⟩
  · constructor
    · rintro ⟨text, hmem, hmalformed⟩
      obtain ⟨b, hb⟩ := hgood text hmem
      obtain ⟨fault, hbad⟩ := Binding.exists_parse_error_iff.2 hmalformed
      cases hb.symm.trans hbad
    · intro _
      have henv : Invocation.environment ⟨bs, bare, command⟩ =
          (surroundings bare).extend (pairsOf texts) :=
        congrArg (surroundings bare).extend (map_pair_eq hbs)
      have hnames : List.Forall₂ Mentions texts (bs.map Binding.name) :=
        List.forall₂_map_right_iff.2
          (hbs.imp fun _ b hb => ⟨b.text, Binding.parse_eq_ok_iff.1 hb⟩)
      refine ⟨⟨bs, bare, command⟩, hparse, rfl, fun name hname => ?_, _, hnames, fun filter => ?_⟩
      · refine ⟨exists_means texts bare name, fun v hv => ?_⟩
        rw [evaluateAlone_name hname, henv, hv.get_eq]
      · have hlist : Interactive.respondTo ⟨Invocation.environment ⟨bs, bare, command⟩, filter⟩
            ":env" = { output := .line (" ".intercalate
              (Invocation.environment ⟨bs, bare, command⟩).names) } := rfl
        rw [hlist, henv, environment_names hnames]

/-- Of the texts behind the command, `min=nil` hides a function of the prelude, the blanks around
`s` are left out and those around its value are not, and `x` is bound twice, the last time to a
number. The text in front of the command is not handed over. -/
theorem names_mean_bindings_last :
    let texts := ["min=nil", " s = a=b ", "x=1", "x=2.50", "t=true"]
    let args := ["--var=y=1", "eval", "--var=min=nil", "--var", " s = a=b ", "x", "--var=x=1",
      "--var=x=2.50", "--var=t=true"]
    HandsOver args ("y=1" :: texts) texts false (.eval "x") ∧
      ∃ inv, Arguments.parse args = .ok (.invoke inv) ∧
        (evaluateAlone inv.environment "x").1 = .ok (.number 2.5) ∧
        (evaluateAlone inv.environment "s").1 = .ok (.string " a=b ") ∧
        (evaluateAlone inv.environment "t").1 = .ok (.bool true) ∧
        (evaluateAlone inv.environment "min").1 = .ok .nil ∧
        (evaluateAlone inv.environment "max").1 = .ok (.function ⟨"max", none, .builtin .max, 5⟩) ∧
        (evaluateAlone inv.environment "y").1 = .ok .nil ∧
        (Interactive.respondTo ⟨inv.environment, []⟩ ":env").output.stdout =
          "abs floor ceil sqrt min max len upper lower trim str num s x t\n" := by
  intro texts args
  have hhands : HandsOver args ("y=1" :: texts) texts false (.eval "x") :=
    .command (.joined "y=1" .nothing) rfl
      (.joined "min=nil" (.apart rfl (.operand rfl (.joined "x=1" (.joined "x=2.50"
        (.joined "t=true" .nothing)))))) (.eval "x")
  have hgood : ∀ text ∈ "y=1" :: texts, ¬ Malformed text := by decide
  have hx : IsName "x" := ⟨'x', [], rfl, rfl, List.all_eq_true.1 rfl, rfl⟩
  have hs : IsName "s" := ⟨'s', [], rfl, rfl, List.all_eq_true.1 rfl, rfl⟩
  have ht : IsName "t" := ⟨'t', [], rfl, rfl, List.all_eq_true.1 rfl, rfl⟩
  have hmin : IsName "min" := ⟨'m', ['i', 'n'], rfl, rfl, List.all_eq_true.1 rfl, rfl⟩
  have hmax : IsName "max" := ⟨'m', ['a', 'x'], rfl, rfl, List.all_eq_true.1 rfl, rfl⟩
  have hy : IsName "y" := ⟨'y', [], rfl, rfl, List.all_eq_true.1 rfl, rfl⟩
  have hnumber : Number.ofText? "2.50" = some 2.5 := by decide +kernel
  have hstring : Number.ofText? " a=b " = none := by decide +kernel
  obtain ⟨inv, hparse, -, hmeans, names, hnames, henv⟩ := (names_mean_bindings hhands).2 hgood
  refine ⟨hhands, inv, hparse, (hmeans "x" hx).2 _ ?_, (hmeans "s" hs).2 _ ?_,
    (hmeans "t" ht).2 _ ?_, (hmeans "min" hmin).2 _ ?_, (hmeans "max" hmax).2 _ ?_,
    (hmeans "y" hy).2 _ ?_, ?_⟩
  · exact @Means.bound _ _ ["min=nil", " s = a=b ", "x=1"] ["t=true"] "x=2.50" _ _ _ rfl
      (@Binding.parse_eq_ok_iff _ ⟨"x", "2.50"⟩ |>.1 rfl) (by decide)
      (.number (by decide) hnumber)
  · exact @Means.bound _ _ ["min=nil"] ["x=1", "x=2.50", "t=true"] " s = a=b " _ " a=b " _ rfl
      (@Binding.parse_eq_ok_iff _ ⟨"s", " a=b "⟩ |>.1 rfl) (by decide)
      (.string (by decide) hstring)
  · exact @Means.bound _ _ ["min=nil", " s = a=b ", "x=1", "x=2.50"] [] "t=true" _ _ _ rfl
      (@Binding.parse_eq_ok_iff _ ⟨"t", "true"⟩ |>.1 rfl) (by decide) .true
  · exact @Means.bound _ _ [] [" s = a=b ", "x=1", "x=2.50", "t=true"] "min=nil" _ _ _ rfl
      (@Binding.parse_eq_ok_iff _ ⟨"min", "nil"⟩ |>.1 rfl) (by decide) .nil
  · exact @Means.builtin _ _ .max (by decide) rfl
  · exact .nothing (by decide) (by decide)
  · have hlist : List.Forall₂ Mentions texts ["min", "s", "x", "x", "t"] := by decide
    have hunique : Relator.RightUnique Mentions := fun _ _ _ => Mentions.name_eq
    rw [henv, List.right_unique_forall₂' hunique hnames hlist]
    decide

end Reckoner.CommandLine
