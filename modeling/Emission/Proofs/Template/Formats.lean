import Emission.Proofs.Template.Rendering
import Emission.Proofs.Template.Shipped

/-!
# Formats in texts

What a text that formats a value comes to in a group, and which renderers a group has after those of a target
were registered. Main statements: `renderText_formatSource`, the filter of a text formats like the group
itself, and `renderers_of_registerAll`.
-/

namespace Emission.Template

namespace Group

variable {g full : Group}

/-! ## Texts that format -/

/-- A text that formats one of the values it is rendered with in a mode that is another one. -/
def formatSource : String := "\x7b\x7b v | fmt(m) \x7d\x7d"

/-- A text that prints the escape mode. -/
def escapeModeSource : String := "\x7b\x7b escape_mode \x7d\x7d"

/-- A mode as a value; no mode is nothing. -/
def modeValue (mode : Option String) : Value := mode.elim .none .text

theorem parse_formatSource (l : Layout) :
    parse l formatSource = .ok [.print (.filter (.name "v") "fmt" [.name "m"] [] none none)] := by
  apply eq_ok_of_readsAs
  unfold parse scan Layout.source formatSource
  rw [String.toList_ofList]
  rcases l with ⟨_ | _, _ | _, _ | _⟩ <;> decide +kernel

theorem parse_escapeModeSource (l : Layout) :
    parse l escapeModeSource = .ok [.print (.name "escape_mode")] := by
  apply eq_ok_of_readsAs
  unfold parse scan Layout.source escapeModeSource
  rw [String.toList_ofList]
  rcases l with ⟨_ | _, _ | _, _ | _⟩ <;> decide +kernel

theorem compile_formatSource (s : Surroundings) (l : Layout) :
    compile s l formatSource = .ok ⟨[.print (.filter (.name "v") "fmt" [.name "m"] [] none none)]⟩ :=
  Shipped.compile_of_prepareAll (parse_formatSource l) rfl

theorem compile_escapeModeSource (s : Surroundings) (l : Layout) :
    compile s l escapeModeSource = .ok ⟨[.print (.name "escape_mode")]⟩ :=
  Shipped.compile_of_prepareAll (parse_escapeModeSource l) rfl

/-- A program that prints one expression prints the text of its value, if there is one. -/
theorem render_print (e : Expr) (sc : Scene) :
    Program.render ⟨[.print e]⟩ sc = e.eval sc {} >>= fun v => v.shown.mapError .misuse := by
  cases heval : e.eval sc {} with
  | error fault => simp [Program.render, runAll, Statement.run, heval, Except.map]
  | ok v =>
    rw [Program.render, runAll, run_print heval, ok_bind]
    cases v.shown <;> simp [runAll, Except.map]

/-- No mode and the empty one are the same. -/
theorem format_modeValue (s : Surroundings) (v : Value) (mode : Option String) :
    s.format v (modeValue mode) = s.renderers.format v (mode.getD "") := by
  cases mode with
  | none => rfl
  | some m =>
    by_cases hm : m = ""
    · subst hm
      rfl
    · simp [Surroundings.format, modeValue, Value.text?, hm]

/-- The filter `fmt` with a mode as its argument. -/
theorem apply_fmt (s : Surroundings) (v : Value) (mode : Option String) :
    Filter.fmt.apply s v [modeValue mode] [] = (s.renderers.format v (mode.getD "")).map .text := by
  have hbind : Filter.fmt.signature.bind [modeValue mode] [] = .ok [modeValue mode] := rfl
  rw [Filter.apply, hbind, ok_bind, Filter.run, format_modeValue]

/-- The filter formats a value in the mode that its argument names. -/
theorem eval_fmt {sc : Scene} {f : Frame} {e m : Expr} {v : Value} {mode : Option String}
    (he : e.eval sc f = .ok v) (hm : m.eval sc f = .ok (modeValue mode)) :
    Expr.eval sc f (.filter e "fmt" [m] [] none none) =
      ((sc.surroundings.renderers.format v (mode.getD "")).map Value.text).mapError .misuse := by
  have harguments : evalAll sc f [m] = .ok [modeValue mode] := by
    rw [evalAll, hm]
    rfl
  have hfilter : filterValue sc.surroundings "fmt" v ([modeValue mode], []) =
      ((sc.surroundings.renderers.format v (mode.getD "")).map Value.text).mapError .misuse := by
    simp only [filterValue, Filter.ofName?, apply_fmt]
  rw [Expr.eval, he, ok_bind, harguments]
  exact hfilter

/-- In the language of this library, a text is compiled and rendered with what is registered now. -/
theorem renderText_standard (source : String) {values : List (String × Value)} (hvalues : NamedFreely values) :
    g.renderText source values = (do
      let p ← compile g.surroundings g.layout source
      p.render ⟨g.surroundings, values, none⟩) :=
  renderText_eq source hvalues

/-- The filter of a text formats like the group. -/
theorem renderText_formatSource (g : Group) (v : Value) (mode : Option String) :
    g.renderText formatSource [("v", v), ("m", modeValue mode)] =
      (g.format v (mode.getD "")).mapError .misuse := by
  have hfree : NamedFreely [("v", v), ("m", modeValue mode)] := by simp [NamedFreely]
  have heval : Expr.eval ⟨g.surroundings, [("v", v), ("m", modeValue mode)], none⟩ {}
      (.filter (.name "v") "fmt" [.name "m"] [] none none) =
        ((g.surroundings.renderers.format v (mode.getD "")).map Value.text).mapError .misuse := eval_fmt rfl rfl
  rw [renderText_standard formatSource hfree, compile_formatSource, ok_bind, render_print, heval, format]
  cases g.surroundings.renderers.format v (mode.getD "") <;> rfl

/-- A name that is known to every template prints its value. -/
theorem renderText_escapeModeSource {v : Value}
    (h : g.surroundings.globals.lookup "escape_mode" = some v) :
    g.renderText escapeModeSource [] = v.shown.mapError .misuse := by
  have hfree : NamedFreely [] := by simp [NamedFreely]
  rw [renderText_standard escapeModeSource hfree, compile_escapeModeSource, ok_bind]
  have heval : Expr.eval ⟨g.surroundings, [], none⟩ {} (.name "escape_mode") = .ok v := by
    simp only [Expr.eval, Scene.resolve, List.lookup_nil, h, Option.getD_some]
  rw [render_print, heval, ok_bind]

/-! ## Renderers of a target -/

/-- New modes, each once, come behind those that were there, and nothing else is changed. -/
theorem renderers_of_registerAll {renderers : Escape.Renderers}
    (hnodup : (g.surroundings.renderers.modes ++ renderers.modes).Nodup)
    (h : g.registerAll renderers = .ok full) :
    full = { g with surroundings :=
      { g.surroundings with renderers := g.surroundings.renderers ++ renderers } } := by
  -- each registration makes another group, so the induction is for every group
  induction renderers generalizing g with
  | nil =>
    rw [← Except.ok.inj h, List.append_nil]
  | cons r rest ih =>
    obtain ⟨mode, f⟩ := r
    simp only [registerAll, List.foldlM_cons, bind_eq_ok_iff] at h
    obtain ⟨next, hnext, hrest⟩ := h
    have hmode : mode ∉ g.surroundings.renderers.modes := fun hmem =>
      (List.nodup_append.mp hnodup).2.2 mode hmem mode List.mem_cons_self rfl
    have hput : next = { g with surroundings :=
        { g.surroundings with renderers := g.surroundings.renderers ++ [(mode, f)] } } := by
      unfold registerRenderer at hnext
      split at hnext
      · cases hnext
      · rw [← Entries.put_of_notMem hmode f]
        exact (Except.ok.inj hnext).symm
    have hnodup' : (next.surroundings.renderers.modes ++ Escape.Renderers.modes rest).Nodup := by
      rw [hput]
      simpa [Escape.Renderers.modes] using hnodup
    rw [ih hnodup' hrest, hput, List.append_assoc, List.singleton_append]

end Group

end Emission.Template
