import Mathlib.Data.List.Infix
import MarkdownTemplate.CommandLine
import MarkdownTemplate.Proofs.Handlers
import MarkdownTemplate.Proofs.Independence

/-!
# What a command line does

A command line makes an assembler and calls it once. This file says that it does no more, wherever
its flags stand and however they are written. It fixes

* `Flag.Writes` -- the ways to write a flag;
* `CommandLine.Arguments` -- a template and an output, with flags anywhere among them;
* `CommandLine.parse_arguments` -- what such arguments ask for;
* `Settings.Quiet` -- settings under which the log keeps to warnings;
* `CommandLine.perform_assemble` -- what is left behind, as one equation;
* **`command_line_assembles`** -- a command line does what an assembler does, and says what went
  wrong; a flag for more to read adds lines of the log, and nothing else.
-/

namespace MarkdownTemplate

/-! ## 1. One argument -/

/-- **The ways to write a flag**: its long name, which may be cut short, or its letter, any number
    of times. -/
inductive Flag.Writes (f : Flag) : Text → Prop where
  | long {name : Text} (hname : name <+: f.long) (hne : name ≠ []) : f.Writes ('-' :: '-' :: name)
  | letters {c : Char} (hletter : f.letter? = some c) (n : Nat) :
      f.Writes ('-' :: List.replicate (n + 1) c)

namespace CommandLine

variable {f : Flag} {flags : List Flag} {s : Text} {args operands : List Text} {c : Char}

theorem mem_commandFlags (f : Flag) : f ∈ commandFlags := by
  cases f <;> decide

/-- No two flags begin alike, so a long name may be cut short as far as to its first character. -/
theorem ofText_long : ∀ f ∈ commandFlags, ∀ name ∈ f.long.inits, name ≠ [] →
    Word.ofText commandFlags ('-' :: '-' :: name) = .flags [f] := by
  decide +kernel

theorem find?_letter (hletter : f.letter? = some c) :
    (commandFlags.find? fun g => g.letter? == some c) = some f := by
  cases f <;> cases hletter <;> rfl

/-- No flag has an `=` for its letter. -/
theorem lettersOf_replicate (hletter : f.letter? = some c) (n : Nat) :
    Word.lettersOf (List.replicate n c) = List.replicate n c := by
  have hc : c ≠ '=' := by
    cases f <;> cases hletter <;> decide
  cases n with
  | zero => rfl
  | succ n =>
      rw [List.replicate_succ]
      unfold Word.lettersOf
      split
      · rename_i heq
        exact absurd (List.cons.inj heq).1 hc
      · rfl

/-- The letter of a flag, again and again. -/
theorem group_replicate (hletter : f.letter? = some c) (n : Nat) (known : List Flag) :
    Word.group commandFlags known (List.replicate n c) = .flags (known ++ List.replicate n f) := by
  induction n generalizing known with
  | zero => rw [List.replicate_zero, List.replicate_zero, List.append_nil, Word.group]
  | succ n ih =>
      rw [List.replicate_succ, Word.group, find?_letter hletter]
      show Word.group commandFlags (known ++ [f]) (List.replicate n c) = _
      rw [ih, List.append_assoc, List.singleton_append, ← List.replicate_succ]

/-- **A flag that is written in one of these ways** reads as this flag, once or more often. -/
theorem ofText_writes (h : f.Writes s) :
    ∃ n, Word.ofText commandFlags s = .flags (List.replicate (n + 1) f) := by
  cases h with
  | long hname hne =>
      exact ⟨0, ofText_long f (mem_commandFlags f) _ ((List.mem_inits _ _).mpr hname) hne⟩
  | @letters c hletter n =>
      have hdash : c ≠ '-' := by
        cases f <;> cases hletter <;> decide
      refine ⟨n, ?_⟩
      rw [List.replicate_succ, Word.ofText, find?_letter hletter, lettersOf_replicate hletter]
      · exact group_replicate hletter n [f]
      · exact hdash

/-! ## 2. Arguments -/

/-- The text is an operand: it does not begin as a flag does, or is a negative number, say. -/
def IsOperand (s : Text) : Prop :=
  Word.ofText commandFlags s = .operand

theorem isOperand_of_head? (h : s.head? ≠ some '-') : IsOperand s := by
  cases s with
  | nil => rfl
  | cons c rest =>
      have hdash : c ≠ '-' := fun hc => h (by rw [hc, List.head?_cons])
      unfold IsOperand Word.ofText
      split
      · rename_i heq
        exact absurd (List.cons.inj heq).1 hdash
      · rename_i heq
        exact absurd (List.cons.inj heq).1 hdash
      · rfl

/-- **Operands with flags anywhere among them**: the arguments, the operands in the order in which
    they stand, and the flags. A flag is none that asks for help. -/
inductive Arguments : List Text → List Text → List Flag → Prop where
  | nil : Arguments [] [] []
  | operand {s : Text} {args operands : List Text} {flags : List Flag} (hs : IsOperand s)
      (hrest : Arguments args operands flags) : Arguments (s :: args) (s :: operands) flags
  | flag {f : Flag} {s : Text} {args operands : List Text} {flags : List Flag}
      (hs : f.Writes s) (hf : f ≠ .help) (hrest : Arguments args operands flags) :
      Arguments (s :: args) operands (f :: flags)

/-- One more flag may be put anywhere. -/
theorem Arguments.insert {front back : List Text} (h : Arguments (front ++ back) operands flags)
    (hs : f.Writes s) (hf : f ≠ .help) :
    ∃ flags', Arguments (front ++ s :: back) operands flags' ∧
      ∀ g, g ∈ flags' ↔ g = f ∨ g ∈ flags := by
  induction front generalizing operands flags with
  | nil => exact ⟨f :: flags, .flag hs hf h, fun g => List.mem_cons⟩
  | cons s' front ih =>
      cases h with
      | operand hs' hrest =>
          obtain ⟨flags', harguments, hmem⟩ := ih hrest
          exact ⟨flags', .operand hs' harguments, hmem⟩
      | @flag f' _ _ _ flags hs' hf' hrest =>
          obtain ⟨flags', harguments, hmem⟩ := ih hrest
          refine ⟨f' :: flags', .flag hs' hf' harguments, fun g => ?_⟩
          rw [List.mem_cons, List.mem_cons, hmem]
          exact or_left_comm

/-- No argument is the beginning of several flags, as `--` is. -/
theorem Arguments.not_ambiguous (h : Arguments args operands flags) :
    ∀ s ∈ args, Word.ofText commandFlags s ≠ .ambiguous := by
  induction h with
  | nil => simp
  | @operand s _ _ _ hs _ ih =>
      refine List.forall_mem_cons.mpr ⟨?_, ih⟩
      rw [show Word.ofText commandFlags s = .operand from hs]
      exact Word.noConfusion
  | flag hs _ _ ih =>
      refine List.forall_mem_cons.mpr ⟨?_, ih⟩
      obtain ⟨n, hreads⟩ := ofText_writes hs
      rw [hreads]
      exact Word.noConfusion

theorem ne_marks (h : Word.ofText commandFlags s ≠ .ambiguous) : s ≠ ['-', '-'] := by
  rintro rfl
  exact h (by decide)

/-- **What reading such arguments adds** to what has been read before. -/
theorem Arguments.readArguments_eq (h : Arguments args operands flags) (verb : Verb) :
    ∀ (touching : Bool) (p : Progress), ∃ read, (∀ f, f ∈ read ↔ f ∈ flags) ∧
      readArguments verb touching p args = Progress.finish verb
        { p with operands := p.operands ++ operands.map some, flags := p.flags ++ read } := by
  induction h with
  | nil => exact fun touching p => ⟨[], fun f => Iff.rfl, by simp [readArguments]⟩
  | @operand s _ operands _ hs _ ih =>
      intro touching p
      have hreads : Word.ofText commandFlags s = .operand := hs
      obtain ⟨read, hmem, heq⟩ := ih true { p with operands := p.operands ++ [some s] }
      refine ⟨read, hmem, ?_⟩
      rw [readArguments, if_neg (ne_marks (by simp [hreads])), hreads]
      simpa using heq
  | @flag f s _ _ flags hs hf _ ih =>
      intro touching p
      obtain ⟨n, hreads⟩ := ofText_writes hs
      obtain ⟨read, hmem, heq⟩ := ih false { p with flags := p.flags ++ List.replicate (n + 1) f }
      refine ⟨List.replicate (n + 1) f ++ read, fun g => ?_, ?_⟩
      · rw [List.mem_append, hmem, List.mem_replicate, List.mem_cons]
        simp
      · rw [readArguments, if_neg (ne_marks (by simp [hreads])), hreads]
        simpa [Ne.symm hf] using heq

end CommandLine

/-- The command that asks for a way to assemble. -/
def Verb.command : Verb → Text
  | includeFiles => "include".toList
  | contentsOnly => "create_page_toc".toList

namespace CommandLine

variable {flags : List Flag} {args : List Text}

/-- A command is read as what it asks for. -/
theorem parse_command (verb : Verb) (args : List Text) :
    parse (verb.command :: args) =
      if hasAmbiguous args then .usageError else readArguments verb false ⟨[], [], false⟩ args := by
  have hmarks : verb.command ≠ ['-', '-'] := by cases verb <;> decide
  have hoperand : Word.ofText [.help] verb.command = .operand := by cases verb <;> decide
  have hverb : verb? verb.command = some verb := by cases verb <;> decide
  rw [parse, parseFrom, if_neg hmarks, hoperand, hverb]

/-- **What a template and an output with flags among them ask for**, wherever the flags stand. -/
theorem parse_arguments {template output : Text} (h : Arguments args [template, output] flags)
    (verb : Verb) : parse (verb.command :: args) =
      .assemble verb template output (flags.contains .tidy) (flags.contains .verbose) := by
  have hambiguous : hasAmbiguous args = false := by
    refine List.any_eq_false.mpr fun s hs => ?_
    have hne := h.not_ambiguous s ((List.takeWhile_sublist _).subset hs)
    simpa using hne
  obtain ⟨read, hmem, heq⟩ := h.readArguments_eq verb false ⟨[], [], false⟩
  rw [parse_command, hambiguous, if_neg Bool.false_ne_true, heq]
  simp [Progress.finish, hmem]

end CommandLine

/-! ## 3. The log -/

/-- **The settings keep the log quiet**: the level that they name is known, and only what is worse
    than a piece of information passes it. -/
def Settings.Quiet (settings : Settings) : Prop :=
  ∃ level, Log.levelOf (.text settings.logLevel) = .ok level ∧
    Log.info < (Log.mk level 0 true).threshold

/-- An environment that says nothing about the log keeps it quiet. -/
theorem Settings.quiet_ofEnvironment {env : List (Text × Text)}
    (h : env.lookup "MDASSEMBLER_LOG_LEVEL".toList = none) : (ofEnvironment env).Quiet := by
  have hlevel : (ofEnvironment env).logLevel = "WARNING".toList := by
    show Text.upper (named env "MDASSEMBLER_LOG_LEVEL" "WARNING") = _
    rw [named, h]
    decide +kernel
  exact ⟨.number Log.warning, by rw [hlevel]; decide +kernel, by decide⟩

/-- A record of what an assembly does, and not of what is wrong. -/
def Record.IsTrace (r : Record) : Prop :=
  r.level = Log.debug ∨ r.level = Log.info

/-- **An assembly logs what it does**, whatever stops it. -/
theorem Assembler.isTrace_of_mem_log (a : Assembler) (verb : Verb) (w : Place)
    (template output : Text) : ∀ r ∈ (a.assemble verb w template output).log, r.IsTrace := by
  have hrecords : ∀ run, ∀ r ∈ records run, r.IsTrace := by
    intro run r hr
    obtain ⟨e, -, hmessage⟩ := List.mem_filterMap.mp hr
    obtain ⟨m, -, rfl⟩ := Option.map_eq_some_iff.mp hmessage
    exact Or.inl rfl
  unfold assemble
  dsimp only
  split
  · simp
  · split
    · exact hrecords _
    · split
      · exact hrecords _
      · exact List.forall_mem_append.mpr ⟨hrecords _, List.forall_mem_singleton.mpr (Or.inr rfl)⟩

namespace Log

variable {log : Log} {r : Record}

/-- A quiet log writes no record of what is done. -/
theorem emit_of_isTrace (hquiet : info < log.threshold) (hr : r.IsTrace) : log.emit r = [] := by
  have hlevel : ¬ log.threshold ≤ r.level := by
    have hle : debug ≤ info := by decide
    rcases hr with hr | hr <;> omega
  rw [emit, if_neg fun h => hlevel h.2]

/-- A log that has been configured to show everything writes one line for it. -/
theorem emit_debug (hr : r.IsTrace) : (Log.mk (.number debug) 0 true).emit r = r.text := by
  have hlevel : 0 < r.level ∧ (Log.mk (.number debug) 0 true).threshold ≤ r.level := by
    rcases hr with hr | hr <;> rw [hr] <;> decide
  rw [emit, if_pos hlevel]
  exact List.append_nil _

end Log

/-! ## 4. What is left behind -/

namespace CommandLine

variable {settings : Settings} {flags : List Flag} {args : List Text} {template output : Text}

/-- What is told about what stopped an assembly. -/
def message (failure : Option Error) : Text :=
  match failure with
  | none => []
  | some e => if e.isReported then told e.message else []

theorem resultOf_eq (log : Log) (outcome : Outcome) :
    resultOf log outcome = ⟨if outcome.failure = none then 0 else 1,
      some ((outcome.log.map log.emit).flatten ++ message outcome.failure), outcome.tree,
      outcome.failure⟩ := by
  unfold resultOf message
  cases outcome.failure <;> simp

/-- **What a command line makes the log write** of what is done: every record as a line if it is
    asked to, and nothing otherwise. -/
theorem lines_of_quiet (hquiet : settings.Quiet) (verbose : Bool) :
    ∃ log, Log.fresh.configure settings.logLevel (logLevel verbose) = (log, none) ∧
      ∀ records : List Record, (∀ r ∈ records, r.IsTrace) →
        (records.map log.emit).flatten =
          if verbose then (records.map Record.text).flatten else [] := by
  cases verbose with
  | true =>
      refine ⟨⟨.number Log.debug, 0, true⟩, rfl, fun records hrecords => ?_⟩
      rw [if_pos rfl, List.map_congr_left fun r hr => Log.emit_debug (hrecords r hr)]
  | false =>
      obtain ⟨level, hlevel, hthreshold⟩ := hquiet
      refine ⟨⟨level, 0, true⟩, ?_, fun records hrecords => ?_⟩
      · show Log.fresh.configure settings.logLevel .null = _
        simp only [Log.configure, Value.isNull, ↓reduceIte, hlevel]
        rfl
      · rw [if_neg Bool.false_ne_true, List.flatten_eq_nil_iff]
        intro text htext
        obtain ⟨r, hr, rfl⟩ := List.mem_map.mp htext
        exact Log.emit_of_isTrace hthreshold (hrecords r hr)

/-- **What an assembly from the command line leaves behind.** -/
theorem perform_assemble (hquiet : settings.Quiet) (w : Place) (verb : Verb)
    (template output : Text) (tidy verbose : Bool) :
    let a : Assembler := ⟨tidy, none, settings.encoding⟩
    let outcome := a.assemble verb w template output
    (assemble verb template output tidy verbose).perform settings w =
      ⟨if outcome.failure = none then 0 else 1,
        some ((if verbose then (outcome.log.map Record.text).flatten else []) ++
          message outcome.failure),
        outcome.tree, outcome.failure⟩ := by
  intro a outcome
  obtain ⟨log, hconfigure, hlines⟩ := lines_of_quiet hquiet verbose
  have hresult := resultOf_eq log outcome
  rw [hlines outcome.log (a.isTrace_of_mem_log verb w template output)] at hresult
  rw [← hresult]
  simp only [perform, hconfigure, Assembler.ofOptions_truth]
  rfl

/-- **A command line does what an assembler does.** Let the settings keep the log quiet, as they do
    when the environment says nothing about it, and let a command line be a command, a template and
    an output, with flags anywhere behind the command and written in any way. It makes an assembler
    whose option is on exactly if the flag for it is there, and calls it as the command says: the
    files afterwards are those that this call leaves. The status is zero if the call succeeds, and
    without the flag for more to read nothing is said then. The status is one if the call fails; of
    an error that a user is told about, the message is said, with no empty lines behind it. To put
    the flag for more to read anywhere changes neither the status nor a file, and only puts the
    lines of the log in front of what is said. -/
theorem command_line_assembles (hquiet : settings.Quiet) (w : Place) (verb : Verb)
    (hargs : Arguments args [template, output] flags) :
    ∃ a, Assembler.ofOptions settings w.cwd
        [(Assembler.tidyName, .truth (flags.contains .tidy))] none settings.encoding = .ok a ∧
      let outcome := a.assemble verb w template output
      let result := (parse (verb.command :: args)).perform settings w
      result.tree = outcome.tree ∧ result.failure = outcome.failure ∧
      (outcome.failure = none →
        result.status = 0 ∧ (.verbose ∉ flags → result.stderr = some [])) ∧
      (∀ e, outcome.failure = some e → result.status = 1 ∧
        (.verbose ∉ flags → e.isReported = true →
          result.stderr = some (dropTrailing (· == '\n') e.message ++ ['\n']))) ∧
      ∀ front back s, args = front ++ back → Flag.verbose.Writes s →
        let louder := (parse (verb.command :: (front ++ s :: back))).perform settings w
        louder.status = result.status ∧ louder.tree = result.tree ∧
        (.verbose ∈ flags → louder = result) ∧
        (.verbose ∉ flags → ∃ said, result.stderr = some said ∧
          louder.stderr = some ((outcome.log.map Record.text).flatten ++ said)) := by
  refine ⟨⟨flags.contains .tidy, none, settings.encoding⟩, Assembler.ofOptions_truth .., ?_⟩
  intro outcome result
  have hresult : result = ⟨if outcome.failure = none then 0 else 1,
      some ((if flags.contains .verbose then (outcome.log.map Record.text).flatten else []) ++
        message outcome.failure), outcome.tree, outcome.failure⟩ := by
    show (parse (verb.command :: args)).perform settings w = _
    rw [parse_arguments hargs, perform_assemble hquiet]
  refine ⟨by rw [hresult], by rw [hresult], fun hok => ?_, fun e hfail => ?_, ?_⟩
  · rw [hresult]
    exact ⟨if_pos hok, fun hflag => by simp [hflag, hok, message]⟩
  · rw [hresult]
    exact ⟨by simp [hfail], fun hflag hreported => by simp [hflag, hfail, message, hreported, told]⟩
  · rintro front back s rfl hs louder
    obtain ⟨flags', hargs', hmem⟩ := hargs.insert hs (by decide)
    have htidy : flags'.contains .tidy = flags.contains .tidy := by simp [hmem]
    have hverbose : flags'.contains .verbose = true := by simp [hmem]
    have hlouder : louder = ⟨if outcome.failure = none then 0 else 1,
        some ((outcome.log.map Record.text).flatten ++ message outcome.failure), outcome.tree,
        outcome.failure⟩ := by
      show (parse (verb.command :: (front ++ s :: back))).perform settings w = _
      rw [parse_arguments hargs', perform_assemble hquiet, htidy, hverbose]
      rfl
    rw [hlouder, hresult]
    exact ⟨rfl, rfl, fun hflag => by simp [hflag],
      fun hflag => ⟨message outcome.failure, by simp [hflag], rfl⟩⟩

/-- A file that is missing is noticed behind one that has been quoted, and what the log tells of
    that one comes first. -/
theorem command_line_assembles_hopeful :
    let args := ["--pris".toList, "t".toList, "o".toList]
    let louder := ["--pris".toList, "t".toList, "-vv".toList, "o".toList]
    let perform (args : List Text) :=
      (parse (Verb.includeFiles.command :: args)).perform .standard hopeful
    Settings.standard.Quiet ∧
    Arguments args ["t".toList, "o".toList] [.tidy] ∧
    (perform args).status = 1 ∧ (perform louder).status = 1 ∧
    (perform louder).tree = (perform args).tree ∧
    ∃ said, (perform args).stderr = some said ∧
      (perform louder).stderr = some (("DEBUG mdassembler.expander: Including /w/q as pre\n" ++
        "DEBUG mdassembler.expander: Finished including /w/q\n").toList ++ said) := by
  intro args louder perform
  have hquiet : Settings.standard.Quiet := Settings.quiet_ofEnvironment rfl
  have htidy : Flag.tidy.Writes ('-' :: '-' :: "pris".toList) := .long (by decide) (by decide)
  have hverbose : Flag.verbose.Writes "-vv".toList := .letters (c := 'v') rfl 1
  have hargs : Arguments args ["t".toList, "o".toList] [.tidy] :=
    .flag htidy (by decide) (.operand (isOperand_of_head? (by decide))
      (.operand (isOperand_of_head? (by decide)) .nil))
  obtain ⟨a, hmade, htree, -, -, hfail, hlouder⟩ :=
    command_line_assembles hquiet hopeful .includeFiles hargs
  cases hmade
  obtain ⟨e, he⟩ := Option.isSome_iff_exists.mp (show (Assembler.assemble
    ⟨true, none, "utf-8".toList⟩ .includeFiles hopeful "t".toList "o".toList).failure.isSome = true
    by decide +kernel)
  obtain ⟨hstatus, -⟩ := hfail e he
  obtain ⟨hstatus', htree', -, hlines⟩ :=
    hlouder ["--pris".toList, "t".toList] ["o".toList] "-vv".toList rfl hverbose
  obtain ⟨said, hsaid, hsaid'⟩ := hlines (by decide)
  have hlog : ((Assembler.assemble ⟨true, none, "utf-8".toList⟩ .includeFiles hopeful "t".toList
      "o".toList).log.map Record.text).flatten =
        ("DEBUG mdassembler.expander: Including /w/q as pre\n" ++
          "DEBUG mdassembler.expander: Finished including /w/q\n").toList := by decide +kernel
  exact ⟨hquiet, hargs, hstatus, hstatus'.trans hstatus, htree', said, hsaid, hlog ▸ hsaid'⟩

end CommandLine

end MarkdownTemplate
