import Emission.Proofs.Session.Isolation
import Emission.Proofs.Template.Formats

/-!
# The formats of a loaded group

A group keeps what it was made with as long as nothing is registered with it. Main statement: `format_loaded`,
a group that a target made for the options of a run formats values like the target, and knows the escape mode
of the run.
-/

namespace Emission.Session

open Template (Group)
open Template.Group (formatSource escapeModeSource modeValue)

variable {s : Session} {o o' : Objects} {step : Step} {answer : Except Fault Answer}

/-! ## Groups that stay as they are -/

/-- A group stays as it is in a step that registers nothing with it. -/
theorem Effect.group_of_get? (h : Effect o step answer o') {g : Nat} {made : Group}
    (hg : o.groups.get? g = some made) (huntouched : ∀ r, step ≠ .register g r) :
    o'.groups.get? g = some made := by
  cases h with
  | built => exact (Store.get?_add_of_lt _ _ (Store.lt_next_of_get? hg)).trans hg
  | @registered place g' r =>
    have hne : place ≠ g := by
      rintro rfl
      exact huntouched r rfl
    exact (Store.get?_set_of_ne _ _ hne).trans hg
  | _ => exact hg

theorem group_of_after {g : Nat} {made : Group} (hg : s.groups.get? g = some made) {steps : List Step}
    (huntouched : ∀ r, Step.register g r ∉ steps) : (s.after steps).groups.get? g = some made := by
  induction steps generalizing s with
  | nil => exact hg
  | cons step rest ih =>
    refine ih ((effect_act s step).group_of_get? hg ?_) fun r hr => ?_
    · rintro r rfl
      exact huntouched r List.mem_cons_self
    · exact huntouched r (List.mem_cons_of_mem step hr)

/-! ## Groups as they are made -/

/-- A load of the target for a run with these options made the group: it was answered the group, which was not
there before. -/
def MadeFor (s : Session) (steps : List Step) (g : Nat) (t : Target) (options : Options) : Prop :=
  ∃ before a r later run, steps = before ++ .load a r :: later ∧
    (s.after before).targets.get? a = some t ∧ (s.after before).runs.get? r = some run ∧
    run.options = options ∧ (s.after before).groups.get? g = none ∧
    ((s.after before).perform (loadGroup a r)).1 = .ok g

/-- A group that is answered to a load and was not there before is made from the target and the options. -/
theorem madeFrom_of_load (hs : Bare s) (before : List Step) {a r g : Nat} {t : Target} {run : Run}
    (ht : (s.after before).targets.get? a = some t) (hr : (s.after before).runs.get? r = some run)
    (hnew : (s.after before).groups.get? g = none)
    (hload : ((s.after before).perform (loadGroup a r)).1 = .ok g) :
    ∃ made, ((s.after before).perform (Step.load a r).act).2.groups.get? g = some made ∧
      MadeFrom t run.options made := by
  obtain ⟨homes, hhomes⟩ := housed_history hs before
  have hanswer : ((s.after before).perform (Step.load a r).act).1 = .ok (.group g) := by
    rw [Step.act, perform_map, hload]
    rfl
  have heffect := effect_act (s.after before) (.load a r)
  rw [HasEffect, hanswer] at heffect
  show ∃ made, ((s.after before).perform (Step.load a r).act).2.objects.groups.get? g = some made ∧ _
  generalize ((s.after before).perform (Step.load a r).act).2.objects = o' at heffect ⊢
  cases heffect with
  | quiet h => exact absurd rfl (h g)
  | removed _ _ h => exact absurd rfl (h g)
  | found hstep hc hget hc' =>
    -- a cache keeps only groups that are there
    have hlt : g < (s.after before).groups.next := by
      have hhome := hhomes.held ⟨_, hc, hget⟩
      have := (List.getElem?_eq_some_iff.mp hhome).1
      rwa [hhomes.length] at this
    obtain ⟨made, hmade⟩ := Store.exists_get? hlt
    rw [hnew] at hmade
    cases hmade
  | @built _ _ _ _ _ made hstep hc hget hc' hmade =>
    obtain ⟨t', run', ht', hr', hfrom⟩ := hmade a r rfl
    obtain rfl : t = t' := Option.some.inj (ht.symm.trans ht')
    obtain rfl : run = run' := Option.some.inj (hr.symm.trans hr')
    exact ⟨made, Store.get?_add_self _ made, hfrom⟩

/-- As long as nothing is registered with it, a group is as it was made. -/
theorem madeFrom_of_madeFor (hs : Bare s) {steps : List Step} {g : Nat} {t : Target} {options : Options}
    (hmade : MadeFor s steps g t options) (huntouched : ∀ r, Step.register g r ∉ steps) :
    ∃ made, (s.after steps).groups.get? g = some made ∧ MadeFrom t options made := by
  obtain ⟨before, a, r, later, run, rfl, ht, hr, rfl, hnew, hload⟩ := hmade
  obtain ⟨made, hg, hfrom⟩ := madeFrom_of_load hs before ht hr hnew hload
  refine ⟨made, ?_, hfrom⟩
  rw [after_append]
  refine group_of_after hg fun r' hr' => ?_
  exact huntouched r' (List.mem_append_right before (List.mem_cons_of_mem _ hr'))

/-- A group that was made from a target has the renderers of the target, and it knows the escape mode. -/
theorem surroundings_of_madeFrom {t : Target} {options : Options} {made : Group}
    (hmodes : t.strategy.renderers.modes.Nodup) (h : MadeFrom t options made) :
    made.surroundings.renderers = t.strategy.renderers ∧
      made.surroundings.globals.lookup "escape_mode" = some options.escapeMode := by
  obtain ⟨fs, dir, plain, full, hplain, hfull, rfl⟩ := h
  obtain ⟨-, -, programs, layout, -, -, rfl⟩ := Group.ofDirectory_eq_ok_iff.mp hplain
  have hnew : ((Group.initialSurroundings (groupOptions options)).renderers.modes ++
      t.strategy.renderers.modes).Nodup := hmodes
  rw [Group.renderers_of_registerAll hnew hfull]
  exact ⟨rfl, rfl⟩

/-! ## Formats -/

/-- A load of the target at `a` for the run at `r` was answered the group. The target made it for the options
of the run, be it in this load or in another, and nobody registered anything with it. -/
structure Loaded (s : Session) (steps : List Step) (a r g : Nat) (t : Target) (run : Run) : Prop where
  target_eq : (s.after steps).targets.get? a = some t
  run_eq : (s.after steps).runs.get? r = some run
  answered : (Step.load a r, .ok (.group g)) ∈ s.history steps
  made : MadeFor s steps g t run.options
  untouched : ∀ registration, Step.register g registration ∉ steps

/-- A target and the group that it loaded for a run format alike. The renderers of the group are those of the
target; any value in any mode comes to the same in the target, in the group and in a text that is rendered in
the group, and it does come to something if the value can be written out; and the group prints the escape mode of the
run. -/
theorem format_loaded (hs : Bare s) {steps : List Step} {a r g : Nat} {t : Target} {run : Run}
    (hloaded : Loaded s steps a r g t run) (hmodes : t.strategy.renderers.modes.Nodup) :
    ∃ loaded, (s.after steps).groups.get? g = some loaded ∧
      loaded.surroundings.renderers = t.strategy.renderers ∧
      (∀ v mode, loaded.format v (mode.getD "") = t.strategy.render v (mode.getD "") ∧
        loaded.renderText formatSource [("v", v), ("m", modeValue mode)] =
          (t.strategy.render v (mode.getD "")).mapError .misuse ∧
        ((∃ text, v.shown = .ok text) → ∃ out, t.strategy.render v (mode.getD "") = .ok out)) ∧
      loaded.renderText escapeModeSource [] = run.options.escapeMode.shown.mapError .misuse := by
  obtain ⟨loaded, hg, hfrom⟩ := madeFrom_of_madeFor hs hloaded.made hloaded.untouched
  obtain ⟨hrenderers, hescape⟩ := surroundings_of_madeFrom hmodes hfrom
  have hformat (v : Value) (mode : Option String) :
      loaded.format v (mode.getD "") = t.strategy.render v (mode.getD "") := by
    rw [Group.format, hrenderers]
    rfl
  refine ⟨loaded, hg, hrenderers, fun v mode => ⟨hformat v mode, ?_, fun hshown => ?_⟩,
    Group.renderText_escapeModeSource hescape⟩
  · rw [Group.renderText_formatSource, hformat]
  · obtain ⟨text, hv⟩ := hshown
    exact Escape.Renderers.exists_format hv _ _

/-- Loaded twice for one run, the PHP target gives the group that it made the first time. -/
theorem format_loaded_php :
    let steps : List Step := [.createRun "Expr" none [], .load 0 0, .load 0 0]
    let t := Target.Php.target
    let run : Run := ⟨"Expr", {}, [], 0⟩
    Bare silentInitial ∧ Loaded silentInitial steps 0 0 0 t run ∧ t.strategy.renderers.modes.Nodup ∧
      ∃ loaded, (silentInitial.after steps).groups.get? 0 = some loaded ∧
        loaded.renderText formatSource [("v", .text "a\\u"), ("m", modeValue (some Target.Php.escapeMode))] =
          .ok "a\\u005Cu" ∧
        loaded.renderText escapeModeSource [] = .ok "java-escape" := by
  intro steps t run
  let php : Group := loadedPhp {} ⟨true, true, true⟩
  have hbare : Bare silentInitial := ⟨rfl, rfl, rfl, rfl⟩
  have hmodes : t.strategy.renderers.modes.Nodup := by decide
  have h₁ : silentInitial.perform (Step.createRun "Expr" none []).act =
      (.ok (.place 0), withRuns [0] [{}] []) := rfl
  have hfirst : (withRuns [0] [{}] []).perform (loadGroup 0 0) =
      (.ok 0, withRuns [0] [phpCache 0] [php]) := by
    rw [perform_loadGroup_php (silent_withRuns _ _ _) rfl rfl rfl rfl rfl rfl rfl]
    rfl
  have h₂ : (withRuns [0] [{}] []).perform (Step.load 0 0).act =
      (.ok (.group 0), withRuns [0] [phpCache 0] [php]) := by
    rw [Step.act, perform_map, hfirst]
    rfl
  have h₃ : (withRuns [0] [phpCache 0] [php]).perform (Step.load 0 0).act =
      (.ok (.group 0), withRuns [0] [{ phpCache 0 with hits := 1 }] [php]) := by
    rw [Step.act, perform_map, perform_loadGroup_of_some (silent_withRuns _ _ _) rfl rfl rfl (get_phpCache 0)]
    rfl
  have hafter : silentInitial.after steps = withRuns [0] [{ phpCache 0 with hits := 1 }] [php] := by
    simp only [steps, after, h₁, h₂, h₃]
  have hloaded : Loaded silentInitial steps 0 0 0 t run := by
    refine ⟨?_, ?_, ?_, ?_, ?_⟩
    · rw [hafter]
      rfl
    · rw [hafter]
      rfl
    · simp [steps, history, h₁, h₂, h₃]
    · have hbefore : silentInitial.after [.createRun "Expr" none []] = withRuns [0] [{}] [] := rfl
      refine ⟨[.createRun "Expr" none []], 0, 0, [.load 0 0], run, rfl, ?_⟩
      rw [hbefore, hfirst]
      exact ⟨rfl, rfl, rfl, rfl, rfl⟩
    · intro registration
      simp [steps]
  obtain ⟨loaded, hg, -, hformat, hescape⟩ := format_loaded hbare hloaded hmodes
  refine ⟨hbare, hloaded, hmodes, loaded, hg, ?_, hescape⟩
  rw [(hformat (.text "a\\u") (some Target.Php.escapeMode)).2.1]
  have hreescape : Escape.reescape "a\\u" = "a\\u005Cu" := by decide +kernel
  exact congrArg Except.ok hreescape

end Emission.Session
