import StructuredQuery.CommandLine.Program

/-!
Runs that call a command. The settings are loaded before the command starts, so a run either ends with what is
wrong with them or is the command's own, with the warnings before its messages.
-/

namespace StructuredQuery.CommandLine

/-- The arguments name a command: what they say before it, and the arguments behind it. -/
structure Names (args : List String) (o : Opening) (command : Command) (behind : List String) : Prop where
  opens : opening args = .ok (.inr o)
  names : ∃ word, o.words = word :: behind ∧ Command.ofText? word = some command

/-- The arguments call a command: they name it, and what is said to it is understood and asks for no help. -/
structure Calls (args : List String) (o : Opening) (command : Command) (a : Arguments) : Prop where
  named : ∃ behind, Names args o command behind ∧ Arguments.read? command.switches true behind = some a
  asks : a.has "--help" = false

/-- A run whose arguments name a command comes to that command. -/
theorem Names.run_eq {args behind : List String} {o : Opening} {command : Command} (h : Names args o command behind)
    (s : Setting) : run s args = runWithConfig s o command behind := by
  obtain ⟨word, hw, hc⟩ := h.names
  rw [run, h.opens]
  simp only [hw, hc]

def perform (s : Setting) (c : Config) (v : Verbosity) (a : Arguments) : Command → Except Escape Outcome × FileTree
  | .check => (check c v a, s.tree)
  | .render => (render s c v a, s.tree)
  | .help => (.ok (help a), s.tree)
  | .initConfig => initConfig s a

variable {args : List String} {o : Opening} {command : Command} {a : Arguments} {s : Setting} {c : Config}
  {warnings : List String}

/-- What the arguments before and behind the word of a command say is what calls it. -/
theorem calls_of_read? (args : List String) (before : Arguments) (config : Option Path) (command : Command)
    (a : Arguments) {word : String} {behind : List String}
    (hg : Arguments.read? globalSwitches false args = some before)
    (hq : before.options.find? (fun o => o.1 = "--help" || o.1 = "--version") = none)
    (hc : (before.get? "--config").mapM namedPath = .ok config) (hw : before.others = word :: behind)
    (hn : Command.ofText? word = some command) (ha : Arguments.read? command.switches true behind = some a)
    (hh : a.has "--help" = false) :
    Calls args ⟨⟨before.has "--verbose", before.has "--debug", before.has "--quiet"⟩, config, before.others⟩ command
      a where
  named := by
    refine ⟨behind, ⟨?_, word, hw, hn⟩, ha⟩
    rw [opening, hg]
    simp only [hq, hc]
    rfl
  asks := hh

/-- Arguments call one command, with one reading of what stands behind it. -/
theorem Calls.unique {o' : Opening} {command' : Command} {a' : Arguments} (h : Calls args o command a)
    (h' : Calls args o' command' a') : command = command' ∧ a = a' := by
  obtain ⟨behind, ⟨hopens, word, hw, hc⟩, hr⟩ := h.named
  obtain ⟨behind', ⟨hopens', word', hw', hc'⟩, hr'⟩ := h'.named
  obtain rfl := Sum.inr.inj (Except.ok.inj (hopens.symm.trans hopens'))
  obtain ⟨rfl, rfl⟩ := List.cons.inj (hw.symm.trans hw')
  obtain rfl := Option.some.inj (hc.symm.trans hc')
  exact ⟨rfl, Option.some.inj (hr.symm.trans hr')⟩

/-- A command whose options are understood is carried out. -/
theorem runCommand_eq_perform {behind : List String} (hr : Arguments.read? command.switches true behind = some a)
    (ha : a.has "--help" = false) (v : Verbosity) : runCommand s c v command behind = perform s c v a command := by
  unfold runCommand
  simp only [hr, ha, Bool.false_eq_true, if_false]
  cases command <;> rfl

/-- Without a request for warnings none is told. -/
theorem told_of_not_verbose {v : Verbosity} (h : v.verbose = false) (warnings : List String) :
    told v warnings = .ok "" := by
  simp [told, h, printEach]

/-- Behind settings that are loaded, the run is the command's own, with the warnings before its messages. -/
theorem Calls.run_eq (h : Calls args o command a) (hl : Config.load s.tree s.place o.config = .ok (c, warnings))
    {first : String} (ht : told o.verbosity warnings = .ok first) :
    run s args = (after first (perform s c o.verbosity a command).1, (perform s c o.verbosity a command).2) := by
  obtain ⟨behind, hn, hr⟩ := h.named
  rw [hn.run_eq, runWithConfig, hl]
  simp only [ht, runCommand_eq_perform hr h.asks]

end StructuredQuery.CommandLine
