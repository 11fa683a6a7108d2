/-
TermRef/Proofs/Settings/Variables.lean

What a binding in a file of variables depends on.

The value of a line may name variables (`Binding.variables`), and is put together from what these
stand for (`EnvFile.resolved_congr`).  A line binds its own name and touches no other.  So if we
keep some names, and no line for one of them names a variable that is not kept, all other lines
might as well not be there (`EnvFile.filter_bindAll`), and the environment matters for the names
that are kept only (`EnvFile.bindAll_congr`).  Together: what is bound to the names that are kept
is the same whatever is changed besides them (`EnvFile.filter_bindAll_congr`).
-/
import TermRef.Settings.EnvFile

namespace TermRef

/-- A member that is searched for is found among those that may be it. -/
theorem find?_filter_of_imp {α : Type} {p q : α → Bool} (h : ∀ a, p a = true → q a = true)
    (l : List α) : (l.filter q).find? p = l.find? p := by
  rw [List.find?_filter]
  congr
  funext a
  cases hp : p a
  · simp
  · simp [h a hp]

theorem find?_congr_of_filter {α : Type} {p q : α → Bool} {l l' : List α}
    (hl : l.filter q = l'.filter q) (h : ∀ a, p a = true → q a = true) :
    l.find? p = l'.find? p := by
  rw [← find?_filter_of_imp h l, hl, find?_filter_of_imp h]

theorem find?_reverse_congr_of_filter {α : Type} {p q : α → Bool} {l l' : List α}
    (hl : l.filter q = l'.filter q) (h : ∀ a, p a = true → q a = true) :
    l.reverse.find? p = l'.reverse.find? p :=
  find?_congr_of_filter (by rw [List.filter_reverse, List.filter_reverse, hl]) h

namespace EnvFile

/-! ### The variables of a value -/

/-- The variables that a value names. -/
def variablesFrom : Nat → List Char → List Variable
  | 0, _ => []
  | _, [] => []
  | fuel + 1, c :: r =>
    match c, r with
    | '$', '\x7b' :: t =>
      match openVariable? t with
      | some (v, rest) => v :: variablesFrom fuel rest
      | none => variablesFrom fuel r
    | _, _ => variablesFrom fuel r

/-- A value is the same if the variables that it names stand for the same. -/
theorem substituteFrom_congr {look look' : Variable → List Char} {fuel : Nat} {s : List Char}
    (h : ∀ v ∈ variablesFrom fuel s, look v = look' v) :
    substituteFrom look fuel s = substituteFrom look' fuel s := by
  fun_induction variablesFrom fuel s with
  | case1 => rfl
  | case2 => simp [substituteFrom]
  | case3 fuel t v rest hopen ih =>
    simp only [List.forall_mem_cons] at h
    simp only [substituteFrom, hopen, h.1, ih h.2]
  | case4 fuel t hopen ih => simp only [substituteFrom, hopen, ih h]
  | case5 fuel c r hc ih => rw [substituteFrom, substituteFrom, ih h] <;> exact hc

end EnvFile

/-- The variables that the value of a line names. -/
def Binding.variables (b : Binding) : List EnvFile.Variable :=
  match b.value with
  | none => []
  | some v => EnvFile.variablesFrom v.length v.toList

namespace EnvFile

variable {environment environment' : List (String × String)} {bound lines : List Binding}
  {b : Binding} {keep keepVar : String → Bool}

theorem resolved_congr {bound' : List Binding}
    (h : ∀ v ∈ b.variables, lookUp environment bound v = lookUp environment' bound' v) :
    resolved environment bound b = resolved environment' bound' b := by
  obtain ⟨name, value⟩ := b
  cases value with
  | none => rfl
  | some s => simp only [resolved, Option.map_some, substituteFrom_congr h]

/-- A name that is kept is bound to the same among the bindings that are kept. -/
theorem lookUp_filter {v : Variable} (h : keep (String.ofList v.name) = true) :
    lookUp environment (bound.filter fun b => keep b.name) v = lookUp environment bound v := by
  rw [lookUp, lookUp, find?_filter_of_imp fun b hb => ?_]
  rw [eq_of_beq hb, h]

theorem lookUp_congr {v : Variable} (h : keep (String.ofList v.name) = true)
    (henv : environment.filter (fun e => keep e.1) = environment'.filter fun e => keep e.1) :
    lookUp environment bound v = lookUp environment' bound v := by
  rw [lookUp, lookUp, find?_congr_of_filter henv fun e he => ?_]
  rw [eq_of_beq he, h]

/-! ### Lines -/

/-- What lines add to what is bound before them. -/
def bindAll (environment : List (String × String)) (bound lines : List Binding) : List Binding :=
  lines.foldl (fun bound b => rebind (resolved environment bound b) bound) bound

theorem filter_rebind_of_kept (h : keep b.name = true) (bound : List Binding) :
    (rebind b bound).filter (fun b => keep b.name) = rebind b (bound.filter fun b => keep b.name) := by
  induction bound with
  | nil => simp [rebind, h]
  | cons c bound ih =>
    rw [rebind]
    split
    · rename_i hname
      have hc : keep c.name = true := by rw [eq_of_beq hname, h]
      rw [List.filter_cons, if_pos h, List.filter_cons, if_pos hc, rebind, if_pos hname]
    · rename_i hname
      rw [List.filter_cons, List.filter_cons, ih]
      split
      · rw [rebind, if_neg hname]
      · rfl

theorem filter_rebind_of_not_kept (h : ¬ keep b.name = true) (bound : List Binding) :
    (rebind b bound).filter (fun b => keep b.name) = bound.filter fun b => keep b.name := by
  induction bound with
  | nil => simp [rebind, h]
  | cons c bound ih =>
    rw [rebind]
    split
    · rename_i hname
      have hc : ¬ keep c.name = true := by rw [eq_of_beq hname]; exact h
      rw [List.filter_cons, if_neg h, List.filter_cons, if_neg hc]
    · rw [List.filter_cons, List.filter_cons, ih]

/-- **Lines for other names might as well not be there.** -/
theorem filter_bindAll (h : ∀ b ∈ lines, keep b.name = true →
      ∀ v ∈ b.variables, keep (String.ofList v.name) = true) (bound : List Binding) :
    (bindAll environment bound lines).filter (fun b => keep b.name) =
      bindAll environment (bound.filter fun b => keep b.name)
        (lines.filter fun b => keep b.name) := by
  induction lines generalizing bound with
  | nil => rfl
  | cons b lines ih =>
    obtain ⟨hb, hlines⟩ := List.forall_mem_cons.mp h
    have hrest := ih hlines (rebind (resolved environment bound b) bound)
    rw [bindAll, List.foldl_cons]
    by_cases hkeep : keep b.name = true
    · have hsame : resolved environment (bound.filter fun b => keep b.name) b =
          resolved environment bound b := resolved_congr fun v hv => lookUp_filter (hb hkeep v hv)
      have hname : keep (resolved environment bound b).name = true := hkeep
      rw [filter_rebind_of_kept hname] at hrest
      rw [List.filter_cons, if_pos hkeep, bindAll, List.foldl_cons, hsame]
      exact hrest
    · have hname : ¬ keep (resolved environment bound b).name = true := hkeep
      rw [filter_rebind_of_not_kept hname] at hrest
      rw [List.filter_cons, if_neg hkeep]
      exact hrest

/-- Lines bind the same in environments that agree on the variables that they name. -/
theorem bindAll_congr
    (h : ∀ b ∈ lines, ∀ v ∈ b.variables, keepVar (String.ofList v.name) = true)
    (henv : environment.filter (fun e => keepVar e.1) = environment'.filter fun e => keepVar e.1)
    (bound : List Binding) : bindAll environment bound lines = bindAll environment' bound lines := by
  induction lines generalizing bound with
  | nil => rfl
  | cons b lines ih =>
    obtain ⟨hb, hlines⟩ := List.forall_mem_cons.mp h
    have hsame : resolved environment bound b = resolved environment' bound b :=
      resolved_congr fun v hv => lookUp_congr (hb v hv) henv
    rw [bindAll, List.foldl_cons, hsame]
    exact ih hlines _

/-- **What is bound to some names is the same if the lines for them are the same**, and the part of
the environment and the other names that these lines name. -/
theorem filter_bindAll_congr (keep keepVar : String → Bool) {lines' : List Binding}
    (h : ∀ b ∈ lines, keep b.name = true → ∀ v ∈ b.variables,
      keep (String.ofList v.name) = true ∧ keepVar (String.ofList v.name) = true)
    (hlines : lines.filter (fun b => keep b.name) = lines'.filter fun b => keep b.name)
    (henv : environment.filter (fun e => keepVar e.1) = environment'.filter fun e => keepVar e.1) :
    (bindAll environment [] lines).filter (fun b => keep b.name) =
      (bindAll environment' [] lines').filter fun b => keep b.name := by
  have hkept : ∀ b ∈ lines.filter fun b => keep b.name, b ∈ lines ∧ keep b.name = true :=
    fun b => List.mem_filter.mp
  have h' : ∀ b ∈ lines', keep b.name = true → ∀ v ∈ b.variables,
      keep (String.ofList v.name) = true := by
    intro b hb hkeep v hv
    obtain ⟨hb, -⟩ := hkept b (hlines ▸ List.mem_filter.mpr ⟨hb, hkeep⟩)
    exact (h b hb hkeep v hv).1
  calc (bindAll environment [] lines).filter (fun b => keep b.name)
    _ = bindAll environment [] (lines.filter fun b => keep b.name) :=
      filter_bindAll (fun b hb hkeep v hv => (h b hb hkeep v hv).1) []
    _ = bindAll environment' [] (lines.filter fun b => keep b.name) :=
      bindAll_congr (fun b hb v hv => (h b (hkept b hb).1 (hkept b hb).2 v hv).2) henv []
    _ = bindAll environment' [] (lines'.filter fun b => keep b.name) := by rw [hlines]
    _ = (bindAll environment' [] lines').filter (fun b => keep b.name) :=
      (filter_bindAll h' []).symm

end EnvFile

end TermRef
