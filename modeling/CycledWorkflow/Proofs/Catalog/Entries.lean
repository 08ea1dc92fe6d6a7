import CycledWorkflow.Graph.Assemble
import CycledWorkflow.Proofs.Dependency.Leaves
/-!
# The entries of a catalog and their names

Every planned task becomes one entry of the graph, and other tasks refer to it by one name:
its group's label followed by a suffix. A task that runs once is referred to by its full
name (`gdasfcst`). A task that fans out runs as a metatask, referred to by the metatask's
name: for post-processing and the METplus cases that is the task's name again (`gfspost`),
for the ensemble member and hour groups a suffix of its own (`gdasefmn` for the ensemble
forecasts).

Which kinds fan out and what their metatasks are called is the same in every mode, so the
naming is a function of group and kind alone (`entryName`), and it tells entries apart: two
entries share a name only when they are the same kind of task in the same group
(`entryName_inj`).

Main statements: `entryName_inj` (entry names determine group and kind) and
`Names.entryName` (a description that names its group, kind and metatask as expected is
referred to by the entry name of its kind).
-/

namespace CycledWorkflow

/-! ### Kinds that fan out -/

namespace TaskKind

/-- Whether a kind of task runs as a metatask, fanned out over members, hours or cases. -/
def fanned : TaskKind → Bool
  | .eget | .post | .metp | .efcs | .epos | .earc | .enspost => true
  | _ => false

/-- The suffix that names the entry of a kind after its group's label: the metatask suffix of
a member or hour fan-out, otherwise the kind's own name. -/
def entrySuffix : TaskKind → String
  | .eget => "egmn"
  | .efcs => "efmn"
  | .epos => "epmn"
  | .earc => "eamn"
  | .enspost => "ermn"
  | k => k.name

/-- The kind of an entry suffix. -/
def ofEntrySuffix? (text : String) : Option TaskKind := all.find? (·.entrySuffix == text)

-- Each case compares the name with those of the kinds listed before it; the kernel does these
-- string comparisons far faster than unification would.
theorem ofName?_name (k : TaskKind) : ofName? k.name = some k := by
  cases k <;> decide +kernel

theorem ofEntrySuffix?_entrySuffix (k : TaskKind) : ofEntrySuffix? k.entrySuffix = some k := by
  cases k <;> decide +kernel

theorem name_inj {k k' : TaskKind} (h : k.name = k'.name) : k = k' := by
  have h' := congrArg ofName? h
  rw [ofName?_name, ofName?_name] at h'
  exact Option.some.inj h'

theorem entrySuffix_inj {k k' : TaskKind} (h : k.entrySuffix = k'.entrySuffix) : k = k' := by
  have h' := congrArg ofEntrySuffix? h
  rw [ofEntrySuffix?_entrySuffix, ofEntrySuffix?_entrySuffix] at h'
  exact Option.some.inj h'

/-- A kind that runs once is named by its own name. -/
theorem entrySuffix_of_not_fanned {k : TaskKind} (h : k.fanned = false) :
    k.entrySuffix = k.name := by
  cases k <;> simp_all [fanned, entrySuffix]

end TaskKind

/-! ### Entry names -/

/-- Labels of different groups start differently, so a label followed by a text determines
both. -/
theorem CycleGroup.label_append_inj {g g' : CycleGroup} {a b : String}
    (h : g.label ++ a = g'.label ++ b) : g = g' ∧ a = b := by
  have h' := congrArg String.toList h
  cases g <;> cases g' <;> simp [CycleGroup.label, String.toList_inj] at h' ⊢ <;> exact h'

/-- The name other tasks refer to the entry of a kind of task in a group by. -/
def entryName (g : CycleGroup) (k : TaskKind) : String := g.label ++ k.entrySuffix

theorem taskName_inj {g g' : CycleGroup} {k k' : TaskKind} (h : taskName g k = taskName g' k') :
    g = g' ∧ k = k' := by
  obtain ⟨rfl, hk⟩ := CycleGroup.label_append_inj h
  exact ⟨rfl, TaskKind.name_inj hk⟩

/-- Entry names determine group and kind. -/
theorem entryName_inj {g g' : CycleGroup} {k k' : TaskKind} (h : entryName g k = entryName g' k') :
    g = g' ∧ k = k' := by
  obtain ⟨rfl, hk⟩ := CycleGroup.label_append_inj h
  exact ⟨rfl, TaskKind.entrySuffix_inj hk⟩

/-- A task that runs once is referred to by its full name. -/
theorem entryName_of_not_fanned (g : CycleGroup) {k : TaskKind} (h : k.fanned = false) :
    entryName g k = taskName g k := by
  rw [entryName, TaskKind.entrySuffix_of_not_fanned h, taskName]

/-! ### The entry of a description -/

namespace TaskSpec

/-- The name other tasks refer to a described task by: its metatask's when it fans out, its
full name otherwise. -/
def entryName (s : TaskSpec) : String :=
  match s.fanOut with
  | some f => f.metatask
  | none => s.name

/-- The conditions a described task waits for, depth first. -/
def leaves (s : TaskSpec) : List Predicate := Dependency.leavesOf s.dependency

@[simp] theorem group_dependsOn (s : TaskSpec) (d : Option Dependency) :
    (s.dependsOn d).group = s.group := rfl
@[simp] theorem task_dependsOn (s : TaskSpec) (d : Option Dependency) :
    (s.dependsOn d).task = s.task := rfl
@[simp] theorem cadence_dependsOn (s : TaskSpec) (d : Option Dependency) :
    (s.dependsOn d).cadence = s.cadence := rfl
@[simp] theorem dependency_dependsOn (s : TaskSpec) (d : Option Dependency) :
    (s.dependsOn d).dependency = d := rfl
@[simp] theorem fanOut_dependsOn (s : TaskSpec) (d : Option Dependency) :
    (s.dependsOn d).fanOut = s.fanOut := rfl

@[simp] theorem group_onCadence (s : TaskSpec) (c : CadenceId) :
    (s.onCadence c).group = s.group := rfl
@[simp] theorem task_onCadence (s : TaskSpec) (c : CadenceId) :
    (s.onCadence c).task = s.task := rfl
@[simp] theorem cadence_onCadence (s : TaskSpec) (c : CadenceId) :
    (s.onCadence c).cadence = c := rfl
@[simp] theorem dependency_onCadence (s : TaskSpec) (c : CadenceId) :
    (s.onCadence c).dependency = s.dependency := rfl
@[simp] theorem fanOut_onCadence (s : TaskSpec) (c : CadenceId) :
    (s.onCadence c).fanOut = s.fanOut := rfl

@[simp] theorem group_withEnv (s : TaskSpec) (b : EnvBinding) : (s.withEnv b).group = s.group :=
  rfl
@[simp] theorem task_withEnv (s : TaskSpec) (b : EnvBinding) : (s.withEnv b).task = s.task := rfl
@[simp] theorem cadence_withEnv (s : TaskSpec) (b : EnvBinding) :
    (s.withEnv b).cadence = s.cadence := rfl
@[simp] theorem dependency_withEnv (s : TaskSpec) (b : EnvBinding) :
    (s.withEnv b).dependency = s.dependency := rfl
@[simp] theorem fanOut_withEnv (s : TaskSpec) (b : EnvBinding) :
    (s.withEnv b).fanOut = s.fanOut := rfl

@[simp] theorem group_fannedOut (s : TaskSpec) (f : FanOut) : (s.fannedOut f).group = s.group :=
  rfl
@[simp] theorem task_fannedOut (s : TaskSpec) (f : FanOut) : (s.fannedOut f).task = s.task := rfl
@[simp] theorem cadence_fannedOut (s : TaskSpec) (f : FanOut) :
    (s.fannedOut f).cadence = s.cadence := rfl
@[simp] theorem dependency_fannedOut (s : TaskSpec) (f : FanOut) :
    (s.fannedOut f).dependency = s.dependency := rfl
@[simp] theorem fanOut_fannedOut (s : TaskSpec) (f : FanOut) :
    (s.fannedOut f).fanOut = some f := rfl

end TaskSpec

namespace Context

@[simp] theorem spec_group (c : Context) (t : TaskKind) : (c.spec t).group = c.group := rfl
@[simp] theorem spec_task (c : Context) (t : TaskKind) : (c.spec t).task = t := rfl
@[simp] theorem spec_dependency (c : Context) (t : TaskKind) : (c.spec t).dependency = none := rfl
@[simp] theorem spec_fanOut (c : Context) (t : TaskKind) : (c.spec t).fanOut = none := rfl

end Context

@[simp] theorem FanOut.metatask_new (m v : String) (vs : List String) :
    (FanOut.new m v vs).metatask = m := rfl

@[simp] theorem FanOut.metatask_withTable (f : FanOut) (n : String) (t : List String) :
    (f.withTable n t).metatask = f.metatask := rfl

/-- What a description says about its own entry: it belongs to the group being described, it
is of the kind asked for, and it fans out exactly when its kind does, as the metatask named
by the entry name of the kind. -/
structure Names (c : Context) (t : TaskKind) (s : TaskSpec) : Prop where
  group : s.group = c.group
  task : s.task = t
  fanOut : s.fanOut.map FanOut.metatask = if t.fanned then some (entryName c.group t) else none

/-- A description that names its entry as expected is referred to by the entry name of its
kind. -/
theorem Names.entryName {c : Context} {t : TaskKind} {s : TaskSpec} (h : Names c t s) :
    s.entryName = CycledWorkflow.entryName c.group t := by
  have hf := h.fanOut
  unfold TaskSpec.entryName
  cases hs : s.fanOut with
  | some f =>
    cases ht : t.fanned
    · simp [hs, ht] at hf
    · simp only [hs, ht, Option.map_some, ↓reduceIte, Option.some.injEq] at hf
      exact hf
  | none =>
    cases ht : t.fanned
    · rw [TaskSpec.name, h.group, h.task, entryName_of_not_fanned _ ht]
    · simp [hs, ht] at hf

/-- A description that names its entry as expected runs once exactly when its kind does. -/
theorem Names.fanOut_eq_none {c : Context} {t : TaskKind} {s : TaskSpec} (h : Names c t s) :
    s.fanOut = none ↔ t.fanned = false := by
  have hf := h.fanOut
  cases hs : s.fanOut <;> cases ht : t.fanned <;> simp_all

end CycledWorkflow
