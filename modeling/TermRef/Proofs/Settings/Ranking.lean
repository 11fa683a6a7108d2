/-
TermRef/Proofs/Settings/Ranking.lean

Which of several values a setting has.

Inputs of four ranks can have a value for a setting: options, the file of settings, the
environment, and the file of variables (`Rank.all`, `Inputs.value?`).  The highest rank that has
one counts, whatever the lower ones have (`Inputs.highest?`, `Settings.get_eq`).

Options are put over the entries of the file of settings, name by name, while a setting goes by
all names that are its own but for case, and the first entry counts.  So an option comes first if
it has the same name as the first entry (`find?_foldl_override`).  This is what
`Inputs.SpeltAlike` asks for.

Inputs that are changed under some names have the same for a setting in every rank in which none
of its names is changed (`Inputs.AgreeBesides.value?`), where a line that names a variable changes
with it (`Inputs.ChangesWithVariables`).  So the setting stays if each change of it is outranked
(`Inputs.AgreeBesides.highest?`), and of both together the result on loading is made up
(`load_ranked`).
-/
import TermRef.Proofs.Settings.Ending
import TermRef.Proofs.Settings.Variables
import TermRef.Proofs.Value.Entries

namespace TermRef

open Value

/-! ### Single settings -/

namespace Setting

/-- What a setting is a value of. -/
def Content : Setting → Type
  | scopedir | output => Option Path
  | glob | vsntag | interpreter | converter | logLevel => String

/-- The check of a value for a setting. -/
def check : (x : Setting) → Value → Checked x.Content
  | scopedir | output => path?
  | glob | vsntag | interpreter | converter => tag?
  | logLevel => text?

end Setting

/-- A single setting. -/
def Settings.get (s : Settings) : (x : Setting) → x.Content
  | .scopedir => s.scopedir
  | .output => s.output
  | .glob => s.glob
  | .vsntag => s.vsntag
  | .interpreter => s.interpreter
  | .converter => s.converter
  | .logLevel => s.logLevel

/-- **Each setting is the checked value that its sources have for it**, or the default. -/
theorem Settings.get_of_ofSources {src : Sources} {s : Settings} (h : ofSources src = .good s)
    (x : Setting) : setting src x (get {} x) x.check = .good (s.get x) := by
  -- the checks are taken apart from the last one on
  obtain ⟨_, logLevel, h₇, hlogLevel, rfl⟩ := Checked.seq_eq_good h
  obtain ⟨_, converter, h₆, hconverter, rfl⟩ := Checked.seq_eq_good h₇
  obtain ⟨_, interpreter, h₅, hinterpreter, rfl⟩ := Checked.seq_eq_good h₆
  obtain ⟨_, vsntag, h₄, hvsntag, rfl⟩ := Checked.seq_eq_good h₅
  obtain ⟨_, glob, h₃, hglob, rfl⟩ := Checked.seq_eq_good h₄
  obtain ⟨_, output, h₂, houtput, rfl⟩ := Checked.seq_eq_good h₃
  obtain ⟨f, scopedir, h₁, hscopedir, rfl⟩ := Checked.seq_eq_good h₂
  obtain rfl : Settings.mk = f := by injection h₁
  cases x with
  | scopedir => exact hscopedir
  | output => exact houtput
  | glob => exact hglob
  | vsntag => exact hvsntag
  | interpreter => exact hinterpreter
  | converter => exact hconverter
  | logLevel => exact hlogLevel

theorem Settings.get_eq {src : Sources} {s : Settings} (h : ofSources src = .good s) (x : Setting) :
    (∀ v, src.value? x = some v → x.check v = .good (s.get x)) ∧
      (src.value? x = none → s.get x = get {} x) := by
  have hx := get_of_ofSources h x
  rw [setting] at hx
  constructor
  · intro v hv
    rw [hv] at hx
    exact Checked.under_eq_good.mp hx
  · intro hv
    rw [hv] at hx
    injection hx with hx
    exact hx.symm

/-- A setting is the same if its sources have the same for it. -/
theorem Settings.get_congr {src src' : Sources} {s s' : Settings} {x : Setting}
    (h : ofSources src = .good s) (h' : ofSources src' = .good s')
    (hx : src'.value? x = src.value? x) : s'.get x = s.get x := by
  have hget := get_of_ofSources h x
  have hget' := get_of_ofSources h' x
  rw [setting, hx, ← setting, hget] at hget'
  exact (Checked.good.inj hget').symm

/-! ### Explicit values -/

namespace Setting

/-- The key of an entry is the name of the setting but for case. -/
def isKey (x : Setting) : Value → Bool
  | .text n => isNamed x.name n
  | _ => false

/-- An option sets the setting: it has its name but for case, and is not null. -/
def isSetBy (x : Setting) (o : String × Value) : Bool := isNamed x.name o.1 && !(o.2 matches .null)

end Setting

section Explicit

variable {x : Setting} {es : Entries} {n : String} {options : List (String × Value)}

/-- An entry put under a name of the setting is the first for it, if that has the same name. -/
theorem Entries.find?_put_of_named (hn : isNamed x.name n = true) (v : Value)
    (hfirst : ∀ e, es.find? (fun e => x.isKey e.1) = some e → e.1 = .text n) :
    (es.put (.text n) v).find? (fun e => x.isKey e.1) = some (.text n, v) := by
  have hkey : x.isKey (.text n) = true := hn
  induction es with
  | nil => simp [put, hkey]
  | cons e es ih =>
    obtain ⟨l, w⟩ := e
    rw [put]
    split
    · rename_i hl
      obtain rfl := Value.same_text.mp hl
      simp [hkey]
    · rename_i hl
      by_cases hlkey : x.isKey l = true
      · have hl' : l = .text n := hfirst (l, w) (by simp [hlkey])
        exact absurd (Value.same_text.mpr hl') hl
      · rw [List.find?_cons_of_neg (by simpa using hlkey)] at hfirst ⊢
        exact ih hfirst

/-- An entry put under any other name makes no difference. -/
theorem Entries.find?_put_of_not_named (hn : ¬ isNamed x.name n = true) (v : Value) :
    (es.put (.text n) v).find? (fun e => x.isKey e.1) = es.find? fun e => x.isKey e.1 := by
  have hkey : ¬ x.isKey (.text n) = true := hn
  induction es with
  | nil => simp [put, hkey]
  | cons e es ih =>
    obtain ⟨l, w⟩ := e
    rw [put]
    split
    · rename_i hl
      obtain rfl := Value.same_text.mp hl
      simp [hkey]
    · rw [List.find?_cons, List.find?_cons, ih]

/-- An option that sets the setting is the first for it, if the first entry has the same name. -/
theorem find?_override_of_isSetBy {o : String × Value} (ho : x.isSetBy o = true)
    (hfirst : ∀ e, es.find? (fun e => x.isKey e.1) = some e → e.1 = .text o.1) :
    (Settings.override es o).find? (fun e => x.isKey e.1) = some (.text o.1, o.2) := by
  obtain ⟨hnamed, hnull⟩ := (Bool.and_eq_true _ _).mp ho
  rw [Settings.override]
  split
  · rename_i hv
    simp [hv] at hnull
  · exact Entries.find?_put_of_named hnamed o.2 hfirst

theorem find?_override_of_not_isSetBy {o : String × Value} (ho : ¬ x.isSetBy o = true) :
    (Settings.override es o).find? (fun e => x.isKey e.1) = es.find? fun e => x.isKey e.1 := by
  rw [Settings.override]
  split
  · rfl
  · refine Entries.find?_put_of_not_named (fun hnamed => ho ?_) o.2
    simp [Setting.isSetBy, hnamed]

/-- **The last option that sets a setting counts, or else its first entry**, if all options that
set it have one name and the first entry has it as well. -/
theorem find?_foldl_override (h : ∀ o ∈ options, x.isSetBy o = true →
      (∀ o' ∈ options, x.isSetBy o' = true → o'.1 = o.1) ∧
      ∀ e, es.find? (fun e => x.isKey e.1) = some e → e.1 = .text o.1) :
    ((options.foldl Settings.override es).find? fun e => x.isKey e.1).map (·.2) =
      ((options.reverse.find? x.isSetBy).map (·.2)).or
        ((es.find? fun e => x.isKey e.1).map (·.2)) := by
  induction options generalizing es with
  | nil => rfl
  | cons o options ih =>
    have hrest : ∀ o' ∈ options, x.isSetBy o' = true →
        ∀ o'' ∈ options, x.isSetBy o'' = true → o''.1 = o'.1 := fun o' ho' hset o'' ho'' =>
      (h o' (List.mem_cons_of_mem _ ho') hset).1 o'' (List.mem_cons_of_mem _ ho'')
    rw [List.foldl_cons, List.reverse_cons, List.find?_append]
    by_cases ho : x.isSetBy o = true
    · -- from now on the first entry is that of the option
      obtain ⟨hsame, hfirst⟩ := h o List.mem_cons_self ho
      have hfound := find?_override_of_isSetBy ho hfirst
      rw [ih, hfound]
      · cases options.reverse.find? x.isSetBy <;> simp [ho]
      · intro o' ho' hset
        refine ⟨hrest o' ho' hset, fun e he => ?_⟩
        rw [hfound] at he
        injection he with he
        rw [← he, hsame o' (List.mem_cons_of_mem _ ho') hset]
    · have hfound : (Settings.override es o).find? (fun e => x.isKey e.1) =
          es.find? fun e => x.isKey e.1 := find?_override_of_not_isSetBy ho
      rw [ih, hfound]
      · simp [ho]
      · intro o' ho' hset
        exact ⟨hrest o' ho' hset, hfound ▸ (h o' (List.mem_cons_of_mem _ ho') hset).2⟩

end Explicit

/-! ### Inputs and their ranks -/

/-- What is found first in an order is the same, if up to the place where something is found it
is the same. -/
theorem findSome?_congr_of_first {α β : Type} [DecidableEq α] {f g : α → Option β} {l : List α}
    (h : ∀ a ∈ l, (∀ b ∈ l.takeWhile (· ≠ a), f b = none) → g a = f a) :
    l.findSome? g = l.findSome? f := by
  induction l with
  | nil => rfl
  | cons a l ih =>
    have ha : g a = f a := h a List.mem_cons_self (by simp)
    rw [List.findSome?_cons, List.findSome?_cons, ha]
    rcases hfa : f a with - | v
    · refine ih fun b hb hnone => ?_
      by_cases hba : a = b
      · exact hba ▸ ha
      · refine h b (List.mem_cons_of_mem _ hb) ?_
        rw [List.takeWhile_cons_of_pos (by simpa using hba)]
        exact List.forall_mem_cons.mpr ⟨hfa, hnone⟩
    · rfl

namespace Settings

/-- What settings are loaded from: the mapping of the file of settings, the options, the
environment, and the lines of the file of variables. -/
structure Inputs where
  config : Entries
  options : List (String × Value)
  environment : List (String × String)
  lines : List Binding

/-- The ranks of the inputs, from the highest to the lowest. -/
inductive Rank where
  | option
  | config
  | environment
  | envFile
  deriving DecidableEq

/-- All ranks, in order. -/
def Rank.all : List Rank := [.option, .config, .environment, .envFile]

/-- The rank is higher than another one: it comes before that in the order. -/
def Rank.Above (r' r : Rank) : Prop := r' ∈ Rank.all.takeWhile (· ≠ r)

/-- The lines of the file of variables, if there is one, unless its bytes are no text. -/
def linesOf? (t : FileTree) : Option (List Binding) :=
  match t.read envFileName with
  | .error _ => some []
  | .ok b => (Utf8.decode b).toOption.map fun s => EnvFile.bindings (Lines.unifyEnds s)

namespace Inputs

/-- The inputs that there are for an attempt to load settings. -/
structure Of (t : FileTree) (environment : List (String × String)) (file : Option String)
    (options : List (String × Value)) (i : Inputs) : Prop where
  config : optionalFile t file = .ok i.config
  options : i.options = options
  environment : i.environment = environment
  lines : linesOf? t = some i.lines

/-- The inputs as sources: options over the file of settings, and what the lines bind. -/
def sources (i : Inputs) : Sources where
  given := i.options.foldl override i.config
  environment := i.environment
  bindings := EnvFile.bindAll i.environment [] i.lines

/-- What the inputs of a rank have for a setting. -/
def value? (i : Inputs) (x : Setting) : Rank → Option Value
  | .option => (i.options.reverse.find? x.isSetBy).map (·.2)
  | .config => (i.config.find? fun e => x.isKey e.1).map (·.2)
  | .environment => (i.sources.environment? x).map .text
  | .envFile => (i.sources.bound? x).map .text

/-- What the inputs of the highest rank have that have something for a setting. -/
def highest? (i : Inputs) (x : Setting) : Option Value := Rank.all.findSome? (i.value? x)

/-- The options that set a setting have one name, and its first entry in the file of settings
has the same. -/
def SpeltAlike (i : Inputs) (x : Setting) : Prop :=
  ∀ o ∈ i.options, x.isSetBy o = true →
    (∀ o' ∈ i.options, x.isSetBy o' = true → o'.1 = o.1) ∧
    ∀ e, i.config.find? (fun e => x.isKey e.1) = some e → e.1 = .text o.1

variable {i i' : Inputs} {x : Setting}

/-- **The sources have for a setting what the highest rank has.** -/
theorem value?_sources (h : i.SpeltAlike x) : i.sources.value? x = i.highest? x := by
  have hgiven : i.sources.given? x = (i.value? x .option).or (i.value? x .config) :=
    find?_foldl_override h
  rw [Sources.value?, hgiven]
  simp only [highest?, Rank.all, List.findSome?_cons, List.findSome?_nil]
  rcases i.value? x .option with - | v
  · rcases i.value? x .config with - | v
    · simp only [Option.or, value?]
      rcases i.sources.environment? x with - | s
      · cases i.sources.bound? x <;> rfl
      · rfl
    · rfl
  · rfl

end Inputs

/-! ### Changes -/

/-- The name is one of a setting, for inputs of a rank. -/
def Rank.isName (r : Rank) (x : Setting) (n : String) : Bool :=
  match r with
  | .option | .config => isNamed x.name n
  | .environment | .envFile => isNamed x.variableName n

namespace Inputs

variable {i i' : Inputs} {x : Setting} {changed : Rank → String → Bool} {r : Rank}

/-- The key is a name that is changed in the file of settings. -/
def isChangedKey (changed : Rank → String → Bool) : Value → Bool
  | .text n => changed .config n
  | _ => false

/-- A line that names a variable that is changed, in the file or in the environment, counts as
changed itself. -/
def ChangesWithVariables (changed : Rank → String → Bool) (i : Inputs) : Prop :=
  ∀ b ∈ i.lines, changed .envFile b.name = false → ∀ v ∈ b.variables,
    changed .envFile (String.ofList v.name) = false ∧
      changed .environment (String.ofList v.name) = false

/-- The inputs are others at most for the names that are changed. -/
structure AgreeBesides (changed : Rank → String → Bool) (i i' : Inputs) : Prop where
  options : i.options.filter (fun o => !changed .option o.1) =
    i'.options.filter fun o => !changed .option o.1
  config : i.config.filter (fun e => !isChangedKey changed e.1) =
    i'.config.filter fun e => !isChangedKey changed e.1
  environment : i.environment.filter (fun e => !changed .environment e.1) =
    i'.environment.filter fun e => !changed .environment e.1
  lines : i.lines.filter (fun b => !changed .envFile b.name) =
    i'.lines.filter fun b => !changed .envFile b.name

/-- **A rank has the same for a setting if no name of the setting is changed there.** -/
theorem AgreeBesides.value? (h : AgreeBesides changed i i') (hlines : i.ChangesWithVariables changed)
    (hr : ∀ n, r.isName x n = true → changed r n = false) : i'.value? x r = i.value? x r := by
  cases r with
  | option =>
    refine congrArg (Option.map _) (find?_reverse_congr_of_filter h.options.symm fun o ho => ?_)
    rw [hr o.1 ((Bool.and_eq_true _ _).mp ho).1]
    rfl
  | config =>
    refine congrArg (Option.map _) (find?_congr_of_filter h.config.symm fun e he => ?_)
    obtain ⟨k, w⟩ := e
    cases k with
    | text n =>
      rw [isChangedKey, hr n he]
      rfl
    | _ => rfl
  | environment =>
    refine congrArg (Option.map Value.text) (congrArg (Option.map _)
      (find?_reverse_congr_of_filter h.environment.symm fun e he => ?_))
    rw [hr e.1 he]
    rfl
  | envFile =>
    have hbindings : (i.sources.bindings.filter fun b => !changed .envFile b.name) =
        i'.sources.bindings.filter fun b => !changed .envFile b.name := by
      refine EnvFile.filter_bindAll_congr (!changed .envFile ·) (!changed .environment ·)
        (fun b hb hkeep v hv => ?_) h.lines h.environment
      simpa using hlines b hb (by simpa using hkeep) v hv
    refine congrArg (Option.map Value.text) (congrArg (Option.bind · _)
      (find?_reverse_congr_of_filter hbindings.symm fun b hb => ?_))
    rw [hr b.name hb]
    rfl

/-- Above every rank in which the setting is changed there is one that has a value for it. -/
def Outranks (i : Inputs) (changed : Rank → String → Bool) (x : Setting) : Prop :=
  ∀ r n, changed r n = true → r.isName x n = true →
    ∃ r', r'.Above r ∧ (i.value? x r').isSome = true

/-- **The highest rank has the same for a setting if its changes are outranked.** -/
theorem AgreeBesides.highest? (h : AgreeBesides changed i i') (hlines : i.ChangesWithVariables changed)
    (hout : i.Outranks changed x) : i'.highest? x = i.highest? x := by
  refine findSome?_congr_of_first fun r _ hnone => h.value? hlines fun n hn => ?_
  -- a change here would be outranked, but all ranks above have nothing
  by_contra hch
  obtain ⟨r', habove, hsome⟩ := hout r n (by simpa using hch) hn
  rw [hnone r' habove] at hsome
  cases hsome

end Inputs

/-! ### Loading -/

variable {t : FileTree} {environment : List (String × String)} {file : Option String}
  {options : List (String × Value)} {s : Settings}

theorem envBindings_eq_ok {bindings : List Binding} (h : envBindings t environment = .ok bindings) :
    ∃ lines, linesOf? t = some lines ∧ bindings = EnvFile.bindAll environment [] lines := by
  rw [envBindings] at h
  rw [linesOf?]
  rcases hread : t.read envFileName with e | b
  · rw [hread] at h
    injection h with h
    exact ⟨[], rfl, h.symm⟩
  · rw [hread] at h
    dsimp only at h ⊢
    rcases hdecode : Utf8.decode b with f | cs
    · rw [hdecode] at h
      cases h
    · rw [hdecode] at h
      injection h with h
      exact ⟨_, rfl, h.symm⟩

/-- Settings that are loaded are made up from the inputs that there are. -/
theorem exists_inputs_of_load (h : load t environment file options = .ok s) :
    ∃ i : Inputs, i.Of t environment file options ∧ ofSources i.sources = .good s := by
  rw [load_eq] at h
  split at h
  · cases h
  rename_i es hes
  split at h
  · split at h
    · cases h
    rename_i bindings hbindings
    split at h
    · rename_i s' hs
      obtain rfl : s' = s := by injection h
      obtain ⟨lines, hlines, rfl⟩ := envBindings_eq_ok hbindings
      exact ⟨⟨es, options, environment, lines⟩, ⟨hes, rfl, rfl, hlines⟩, hs⟩
    · cases h
  · cases h

/-- There is one choice of inputs. -/
theorem Inputs.Of.unique {i i' : Inputs} (h : i.Of t environment file options)
    (h' : i'.Of t environment file options) : i' = i := by
  obtain ⟨config, options, environment, lines⟩ := i
  obtain ⟨config', options', environment', lines'⟩ := i'
  obtain ⟨hconfig, rfl, rfl, hlines⟩ := h
  obtain ⟨hconfig', rfl, rfl, hlines'⟩ := h'
  obtain rfl : config' = config := by
    rw [hconfig] at hconfig'
    injection hconfig' with hconfig'
    exact hconfig'.symm
  obtain rfl : lines' = lines := by
    rw [hlines] at hlines'
    injection hlines' with hlines'
    exact hlines'.symm
  rfl

/-- **Every setting that is loaded is the checked value of the highest rank**, or the default if
no rank has a value for it.  It stays the same when inputs are changed under names that are none
of its own, or in ranks below one that has a value for it, as long as settings are loaded at all.
Lines that name what is changed count among the changes. -/
theorem load_ranked (h : load t environment file options = .ok s) :
    ∃ i : Inputs, i.Of t environment file options ∧
      (∀ x, i.SpeltAlike x → (∀ v, i.highest? x = some v → x.check v = .good (s.get x)) ∧
        (i.highest? x = none → s.get x = get {} x)) ∧
      ∀ t' environment' file' options' s' i' changed,
        load t' environment' file' options' = .ok s' → i'.Of t' environment' file' options' →
        i.AgreeBesides changed i' → i.ChangesWithVariables changed →
        ∀ x, i.SpeltAlike x → i'.SpeltAlike x → i.Outranks changed x → s'.get x = s.get x := by
  obtain ⟨i, hi, hs⟩ := exists_inputs_of_load h
  refine ⟨i, hi, fun x hx => Inputs.value?_sources hx ▸ get_eq hs x, ?_⟩
  intro t' environment' file' options' s' i' changed h' hi' hagree hlines x hx hx' hout
  obtain ⟨i'', hi'', hs'⟩ := exists_inputs_of_load h'
  obtain rfl := hi'.unique hi''
  refine get_congr hs hs' ?_
  calc i''.sources.value? x
    _ = i''.highest? x := Inputs.value?_sources hx'
    _ = i.highest? x := hagree.highest? hlines hout
    _ = i.sources.value? x := (Inputs.value?_sources hx).symm

/-- An option comes before the environment, and the environment may be another one. -/
theorem load_ranked_option :
    load ⟨[], []⟩ [("TRRT_GLOB", "b")] none [("glob", .text "a")] = .ok { glob := "a" } ∧
      (∃ i : Inputs, i.Of ⟨[], []⟩ [("TRRT_GLOB", "b")] none [("glob", .text "a")] ∧
        i.highest? .glob = some (.text "a") ∧ Setting.check .glob (.text "a") = .good "a") ∧
      ∀ s, load ⟨[], []⟩ [("A", "c")] none [("glob", .text "a")] = .ok s → s.glob = "a" := by
  have h : load ⟨[], []⟩ [("TRRT_GLOB", "b")] none [("glob", .text "a")] =
      .ok { glob := "a" } := by decide +kernel
  have hof : ∀ environment, Inputs.Of ⟨[], []⟩ environment none [("glob", .text "a")]
      ⟨[], [("glob", .text "a")], environment, []⟩ := fun _ => ⟨rfl, rfl, rfl, rfl⟩
  have hspelt : ∀ environment, Inputs.SpeltAlike
      ⟨[], [("glob", .text "a")], environment, []⟩ .glob := by
    intro environment o ho _
    simp_all
  obtain ⟨i, hi, hfields, hother⟩ := load_ranked h
  obtain rfl := (hof _).unique hi
  have hhigh : Inputs.highest? ⟨[], [("glob", .text "a")], [("TRRT_GLOB", "b")], []⟩ .glob =
      some (.text "a") := rfl
  refine ⟨h, ⟨_, hi, hhigh, (hfields .glob (hspelt _)).1 _ hhigh⟩, fun s hs => ?_⟩
  -- all of the environment is changed, and the option is above it
  refine hother _ _ _ _ s _ (fun r _ => r == .environment) hs (hof _) ⟨rfl, rfl, rfl, rfl⟩
    (fun _ hb => nomatch hb) .glob (hspelt _) (hspelt _) fun r n hr _ => ⟨.option, ?_, rfl⟩
  obtain rfl := eq_of_beq hr
  simp [Rank.Above, Rank.all]

/-- **Names in another letter case, and variables in values, make exceptions.**  An option does
not count over an entry of the file of settings that is spelled in another way, and a line for
another name changes a setting whose line names it. -/
theorem load_unranked :
    load ⟨[], [(["c.yaml"], .file "Scopedir: x\n".toUTF8.toList)]⟩ [] (some "c.yaml")
        [("scopedir", .text "cli")] = .ok { scopedir := some (.ofText "x") } ∧
      load ⟨[], [([".env"], .file "A=1\nTRRT_GLOB=$\x7bA\x7d\n".toUTF8.toList)]⟩ [] none [] =
        .ok { glob := "1" } ∧
      load ⟨[], [([".env"], .file "A=2\nTRRT_GLOB=$\x7bA\x7d\n".toUTF8.toList)]⟩ [] none [] =
        .ok { glob := "2" } := by
  decide +kernel

end Settings

end TermRef
