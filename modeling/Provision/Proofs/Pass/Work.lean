import Provision.Proofs.Pass.Install
import Provision.Proofs.Recipe.Scripts

namespace Provision

/-- What a target does for a method is a script, or leads to one. -/
def Configuration.Busy (c : Configuration) (target : String) (m : Method) : Prop :=
  ∃ ms actions, c.targets.get? target = some ms ∧ ms.actions? m = some actions ∧
    c.recipes.LeadsToScript m actions

theorem Configuration.Busy.commands_ne_nil {c : Configuration} {target : String} {m : Method}
    (hb : c.Busy target m) {commands : List String}
    (h : Pass.commandsOf c target m = .ok commands) : commands ≠ [] := by
  obtain ⟨ms, actions, hget, hactions, hleads⟩ := hb
  unfold Pass.commandsOf at h
  rw [hget] at h
  cases hcommands : c.recipes.commands ms m with
  | error e => simp [hcommands] at h
  | ok own =>
    obtain rfl : own = commands := by simpa [hcommands] using h
    exact RecipeIndex.commands_ne_nil hactions hleads hcommands

/-- A definition that is complete says something for both methods, if it does not leave one of them
without actions. -/
theorem Methods.IsComplete.exists_actions {ms : Methods} (h : ms.IsComplete) (hf : ms.Filled)
    (m : Method) : ∃ actions, ms.actions? m = some actions ∧ actions ≠ [] := by
  cases hm : ms.get? m.name with
  | some actions => exact ⟨actions, by simp [Methods.actions?, hm], hf _ actions hm⟩
  | none =>
    rcases h with ⟨actions, hs, hne⟩ | ⟨⟨setup, hsetup, _⟩, ⟨check, hcheck, _⟩⟩
    · exact ⟨actions, by simp [Methods.actions?, hm, hs], hne⟩
    · cases m
      · simp [hm] at hsetup
      · simp [hm] at hcheck

namespace Pass

variable {σ : Type} {source text : String} {c : Configuration} {d : Document}

/-- Among the commands that have been run are, one after the other and all with success, those of a
target for a method, and there is at least one. -/
def Worked (c : Configuration) (target : String) (m : Method) (trials : List Trial) : Prop :=
  ∃ own, own ≠ [] ∧ own <:+: trials ∧ commandsOf c target m = .ok (own.map Trial.command) ∧
    ∀ t ∈ own, t.success = true

theorem Completed.worked {target : String} {m : Method} {trials : List Trial}
    (h : Completed c target m trials) (hb : c.Busy target m) : Worked c target m trials := by
  obtain ⟨own, hown, hcommands, hall⟩ := h
  exact ⟨own, by simpa using hb.commands_ne_nil hcommands, hown, hcommands, hall⟩

theorem busy_of_filled (hparse : Document.parse text = .ok d)
    (hload : Configuration.load source text = .ok c) (hd : d.Filled) {n : String}
    (hn : n ∈ c.graph.installOrder) (m : Method) : c.Busy n m := by
  obtain ⟨ms, hget, hcomplete, hcommands⟩ := Configuration.complete_of_load hparse hload hn
  obtain ⟨rfl, _⟩ := (Configuration.load_eq_ok_iff hparse).mp hload
  obtain ⟨hrecipes, htargets⟩ := Configuration.filled_ofDocument hd
  obtain ⟨actions, hactions, hne⟩ := hcomplete.exists_actions (htargets n ms hget) m
  obtain ⟨commands, hcommands⟩ := hcommands m
  rw [RecipeIndex.commands, hactions] at hcommands
  exact ⟨ms, actions, hget, hactions, RecipeIndex.leadsToScript_of_filled hrecipes hne hcommands⟩

/-- What a pass reports as installed, it has run at least one command for, unless what the target
does for the method leads to none. -/
def Earned (c : Configuration) (m : Method) (reported : List String) (trials : List Trial) : Prop :=
  ∀ n ∈ reported, c.Busy n m → Worked c n m trials

/-- Where what a target does leads to a script, it has a command, and no pass reports it as
installed without having run one. That is so for all targets if no header of a method is without
actions. -/
theorem earned_of_load (hparse : Document.parse text = .ok d)
    (hload : Configuration.load source text = .ok c) (machine : Machine σ) (status : StatusReport)
    (w : σ) :
    let checked := checkAll machine.recording c (w, ⟨[], []⟩)
    let installed := installAll machine.recording c status (w, ⟨[], []⟩)
    (∀ n ∈ c.graph.installOrder, ∀ m, ∃ commands, commandsOf c n m = .ok commands ∧
      (c.Busy n m → commands ≠ [])) ∧
    (d.Filled → ∀ n ∈ c.graph.installOrder, ∀ m, c.Busy n m) ∧
    (checkAll machine c w = checked.through Prod.fst ∧
      Earned c .isSetup checked.report.installed checked.world.2.trials) ∧
    (installAll machine c status w = installed.through Prod.fst ∧
      Earned c .setup installed.report.installed installed.world.2.trials) := by
  have hcommands (n : String) (hn : n ∈ c.graph.installOrder) (m : Method) :=
    Configuration.commandsOf_of_load hparse hload hn m
  obtain ⟨checks, _, hs⟩ := checkAll_survey machine (fun n hn => hcommands n hn .isSetup) w
  refine ⟨fun n hn m => ?_, fun hd n hn m => busy_of_filled hparse hload hd hn m,
    ⟨(mirrors_recording machine).checkAll c (w, ⟨[], []⟩), fun n hn hb => ?_⟩,
    (mirrors_recording machine).installAll c status (w, ⟨[], []⟩), fun n hn hb => ?_⟩
  · obtain ⟨commands, hok⟩ := hcommands n hn m
    exact ⟨commands, hok, fun hb => hb.commands_ne_nil hok⟩
  · exact (hs.completed hn).worked hb
  · exact (installAll_completed machine c status w hn).worked hb

theorem earned_sawless :
    let c := Configuration.ofDocument Configuration.workshop
    let status : StatusReport := ⟨[], ["base", "saw"], ["drill"]⟩
    let checked := checkAll sawless.recording c ([], ⟨[], []⟩)
    let installed := installAll sawless.recording c status ([], ⟨[], []⟩)
    (Configuration.workshop.Filled ∧ checked.report.installed = ["base", "saw", "drill"] ∧
      installed.report.installed = ["base"]) ∧
    (∀ n ∈ c.graph.installOrder, ∀ m, ∃ commands, commandsOf c n m = .ok commands ∧
      (c.Busy n m → commands ≠ [])) ∧
    (Configuration.workshop.Filled → ∀ n ∈ c.graph.installOrder, ∀ m, c.Busy n m) ∧
    (checkAll sawless c [] = checked.through Prod.fst ∧
      Earned c .isSetup checked.report.installed checked.world.2.trials) ∧
    (installAll sawless c status [] = installed.through Prod.fst ∧
      Earned c .setup installed.report.installed installed.world.2.trials) :=
  ⟨by decide +kernel, earned_of_load Configuration.parse_workshop Configuration.load_workshop
    sawless ⟨[], ["base", "saw"], ["drill"]⟩ []⟩

/-- A recipe that leaves both methods without actions, and a target that it stands for. -/
def idleText : String := "recipe idle():\n  setup:\n  is_setup:\nlamp: idle()\n"

def idle : Document :=
  [.recipe "idle" [] [⟨.setup, [], 2⟩, ⟨.isSetup, [], 3⟩] 1, .shortcut "lamp" ⟨"idle", []⟩ 4]

theorem parse_idle : Document.parse idleText = .ok idle := by
  decide +kernel

/-- The recipe of that name among any others. -/
def idleRecipe : Recipe := ⟨"idle", [], .ofList [("setup", []), ("is_setup", [])]⟩

theorem get?_recipes_idle :
    (Configuration.ofDocument idle).recipes.get? "idle" = some idleRecipe := by
  have hown : (RecipeIndex.ofDocument idle).get? "idle" = some idleRecipe := rfl
  rw [Configuration.ofDocument, OrderedMap.get?_overlay, hown]
  rfl

theorem commands_idle {recipes : RecipeIndex} (hget : recipes.get? "idle" = some idleRecipe)
    (m : Method) :
    recipes.commands (.ofList [("recipe", [.call ⟨"idle", []⟩])]) m = .ok [] := by
  have hactions : Methods.actions? (.ofList [("recipe", [.call ⟨"idle", []⟩])]) m =
      some [.call ⟨"idle", []⟩] := by cases m <;> rfl
  have hmethod : idleRecipe.methods.get? m.name = some [] := by cases m <;> rfl
  have hlength : idleRecipe.parameters.length = 0 := rfl
  rw [RecipeIndex.commands, hactions]
  simp [RecipeIndex.expandActions, RecipeIndex.expand, maxDepth, RecipeIndex.expandWithin, collect,
    hget, hmethod, hlength]

theorem load_idle : Configuration.load "idle" idleText = .ok (.ofDocument idle) := by
  have hs : (Configuration.ofDocument idle).graph.HasSource :=
    Configuration.hasSource_ofDocument (by decide +kernel)
  have htargets : (Configuration.ofDocument idle).targets.entries =
      [("lamp", .ofList [("recipe", [.call ⟨"idle", []⟩])])] := rfl
  have hcalls {check? : String → Invocation → Option ConfigurationError}
      (hcheck : check? "lamp" ⟨"idle", []⟩ = none) :
      Validation.callError? check? (Configuration.ofDocument idle).targets = none := by
    rw [Validation.callError?_eq_none_iff, htargets]
    rintro e he f hf call hcall
    obtain rfl := List.mem_singleton.mp he
    obtain rfl := List.mem_singleton.mp hf
    obtain rfl : call = ⟨"idle", []⟩ := by simpa using hcall
    exact hcheck
  -- The standard recipes are never computed, so what asks for recipes goes by their lemmas.
  refine Configuration.load_of_errors parse_idle hs (by decide +kernel) (by decide +kernel)
    (hcalls ?_) (hcalls ?_) ?_
  · exact Validation.recipeError?_eq_none_iff.mpr ⟨_, get?_recipes_idle⟩
  · rw [Validation.arityError?, get?_recipes_idle]
    rfl
  · rw [Validation.expansionError?_eq_none_iff, htargets]
    rintro e he m
    obtain rfl := List.mem_singleton.mp he
    exact ⟨[], commands_idle get?_recipes_idle m⟩

theorem commandsOf_idle (m : Method) : commandsOf (.ofDocument idle) "lamp" m = .ok [] := by
  have hget : (Configuration.ofDocument idle).targets.get? "lamp" =
      some (.ofList [("recipe", [.call ⟨"idle", []⟩])]) := rfl
  rw [commandsOf, hget]
  simp only [commands_idle get?_recipes_idle m]

theorem Check.Faithful.idle {k : Check} (hk : k.Faithful c)
    (hcommands : commandsOf c k.target .isSetup = .ok []) :
    k.trials = [] ∧ k.status = .installed := by
  obtain ⟨commands, hown, ht, hstatus⟩ := hk
  obtain rfl : [] = commands := by simpa [hcommands] using hown
  have htrials : k.trials = [] := by simpa using ht.isPrefix
  rw [htrials] at hstatus
  exact ⟨htrials, hstatus⟩

/-- Targets without a command pass for installed, and nothing has been run. -/
theorem Survey.idle {checks : List Check} {report : StatusReport} {trials : List Trial}
    (hs : Survey c checks report trials)
    (hcommands : ∀ k ∈ checks, commandsOf c k.target .isSetup = .ok []) :
    report.installed = checks.map Check.target ∧ trials = [] := by
  have hidle (k : Check) (hk : k ∈ checks) := (hs.faithful k hk).idle (hcommands k hk)
  constructor
  · have hall : checks.filter (·.status = .installed) = checks :=
      List.filter_eq_self.mpr fun k hk => by simpa using (hidle k hk).2
    have hinstalled := hs.listed .installed
    rwa [hall] at hinstalled
  · rw [hs.trials, List.flatMap_eq_nil_iff]
    exact fun k hk => (hidle k hk).1

theorem checkAll_idle (machine : Machine σ) (w : σ) :
    (checkAll machine.recording (.ofDocument idle) (w, ⟨[], []⟩)).report.installed = ["lamp"] ∧
    (checkAll machine.recording (.ofDocument idle) (w, ⟨[], []⟩)).world.2.trials = [] := by
  have horder : (Configuration.ofDocument idle).graph.installOrder = ["lamp"] := by decide +kernel
  have hcommands (n : String) (hn : n ∈ (Configuration.ofDocument idle).graph.installOrder) :
      commandsOf (.ofDocument idle) n .isSetup = .ok [] := by
    obtain rfl : n = "lamp" := by simpa [horder] using hn
    exact commandsOf_idle .isSetup
  obtain ⟨checks, htargets, hs⟩ := checkAll_survey machine (fun n hn => ⟨[], hcommands n hn⟩) w
  rw [← horder, ← htargets]
  exact hs.idle fun k hk => hcommands _ (htargets ▸ List.mem_map_of_mem hk)

/-- A configuration can be loaded although its only target has no command at all. -/
theorem installed_idle :
    Configuration.load "idle" idleText = .ok (.ofDocument idle) ∧
    (¬ ∀ n ∈ (Configuration.ofDocument idle).graph.installOrder, ∀ m, ∃ commands,
      commandsOf (.ofDocument idle) n m = .ok commands ∧ commands ≠ []) ∧
    (checkAll sawless.recording (.ofDocument idle) ([], ⟨[], []⟩)).report.installed = ["lamp"] ∧
    (checkAll sawless.recording (.ofDocument idle) ([], ⟨[], []⟩)).world.2.trials = [] := by
  refine ⟨load_idle, fun h => ?_, checkAll_idle sawless []⟩
  obtain ⟨commands, hcommands, hne⟩ := h "lamp" (by decide +kernel) .setup
  rw [commandsOf_idle] at hcommands
  exact hne (Except.ok.inj hcommands).symm

end Pass

end Provision
