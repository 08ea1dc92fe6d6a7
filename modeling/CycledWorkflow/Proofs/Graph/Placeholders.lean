import CycledWorkflow.Proofs.Catalog.Placeholders
import CycledWorkflow.Proofs.Catalog.Described
import CycledWorkflow.Proofs.Graph.Listing
/-!
# Every placeholder of a compiled graph is bound

Before a compiled graph is returned, two of its checks read placeholders: every placeholder of
a binding must be a cycle field or a binding, and every placeholder in an entry's texts (its
name, script, job name, log, text variables, data paths and compared strings) a cycle field, a
binding or, in a metatask, one of its variables.

Both checks pass on every graph an experiment compiles to, whatever its mode and switches,
when its base sets the five root directories and none of its texts holds a `$`
(`compile_placeholders_bound`). The bindings then hold the standard ones, and only the default
directory of the job scripts names a placeholder, the home directory, which is bound. The texts
of an entry are its description's, whose placeholders are known by the rules of each mode
(`Mode.describe_placeholdersKnown`), and the assembler's own: the scripts under `${JOBS_DIR}`,
the job names `${PSLOT}_name_${HH}` and the logs under `${ROTDIR}/logs/${CDATE}`, with the
member's variable in the name of a fanned-out task.

Main statement: `compile_placeholders_bound`.
-/

namespace CycledWorkflow

open Template (Plain)

/-! ### The descriptions of a catalog -/

/-- Writing keys never removes one. -/
theorem Config.Scope.isSome_string?_extend {s : Config.Scope} {k : String}
    (h : (s.string? k).isSome) (es : List (String × Config.Value)) :
    ((s.extend es).string? k).isSome := by
  induction es generalizing s with
  | nil => exact h
  | cons x es ih =>
    show (((s.insert x.1 x.2).extend es).string? k).isSome
    refine ih ?_
    by_cases hk : k = x.1
    · simp [Config.Scope.string?, hk, Config.Scope.get?_insert]
    · simpa [Config.Scope.string?, Config.Scope.get?_insert_of_ne _ _ _ _ hk] using h

/-- The run whose initial conditions are staged is the base's `ICDUMP`, `gdas` by default. -/
theorem Features.ofScope_icdump {base : Config.Scope} {f : Features}
    (h : Features.ofScope base = .ok f) : f.icdump = base.stringOr "ICDUMP" "gdas" := by
  unfold Features.ofScope at h
  -- every read succeeds; the run's name is read without a check
  simp only [bind, Except.bind] at h
  repeat (split at h; · cases h)
  rw [← Except.ok.inj h]

namespace Catalog

/-- Every description a catalog builds uses only the placeholders the graph binds, when the
calendar's base holds no `$`. -/
theorem build_placeholdersKnown {cal : Calendar} {cat : Catalog} {specs : List TaskSpec}
    (hbase : cal.base.Plain) (hc : ofCalendar cal = .ok cat) (hb : cat.build = .ok specs) :
    ∀ s ∈ specs, s.PlaceholdersKnown := by
  have hcal := ofCalendar_calendar hc
  have hicdump : Plain cat.features.icdump := by
    unfold ofCalendar at hc
    obtain ⟨f, hf, hc⟩ := exists_ok_of_bind_ok hc
    obtain rfl := Except.ok.inj hc
    rw [Features.ofScope_icdump hf]
    exact hbase.stringOr "ICDUMP" (by decide)
  intro s hs
  obtain ⟨g, ts, -, t, -, hd, -⟩ := mem_build hb hs
  have hctx : (cat.context g).base.Plain := by
    simpa [Context.base, hcal] using hbase
  exact Mode.describe_placeholdersKnown hctx hicdump hd

end Catalog

/-! ### The two checks -/

namespace Graph

/-- The binding check passes when every placeholder of a binding is a cycle field or a
binding. -/
theorem checkBindings_eq_ok {G : Graph}
    (h : ∀ x ∈ G.bindings, ∀ p ∈ Template.placeholders x.2,
      p ∈ Template.cycleFields ∨ p ∈ G.bindingNames) :
    G.checkBindings = .ok () := by
  unfold checkBindings unknownInBindings
  rw [List.findSome?_eq_none_iff.mpr]
  · rfl
  intro x hx
  rw [Option.map_eq_none_iff, List.find?_eq_none]
  intro p hp
  rcases h x hx p hp with hc | hn
  · simp [hc]
  · simpa [bindingNames] using fun _ => hn

/-- The placeholders of the texts the placeholder check reads from a node. -/
def TaskNode.placeholders (n : TaskNode) : List String :=
  (placeholderTexts n).flatMap fun t => Template.placeholders t.2

/-- The placeholder check passes when the texts of every entry use only what the entry may. -/
theorem checkPlaceholders_eq_ok {G : Graph}
    (h : ∀ x ∈ G.entries, TaskNode.placeholders x.node ⊆ G.allowedPlaceholders x) :
    G.checkPlaceholders = .ok () := by
  unfold checkPlaceholders
  rw [List.findSome?_eq_none_iff.mpr]
  · rfl
  intro x hx
  rw [Option.map_eq_none_iff]
  unfold unknownPlaceholder
  rw [List.findSome?_eq_none_iff]
  intro t ht
  rw [Option.map_eq_none_iff, List.find?_eq_none]
  intro p hp
  have hmem : p ∈ TaskNode.placeholders x.node :=
    List.mem_flatMap.mpr ⟨t, ht, hp⟩
  simpa using h x hx hmem

/-- The check reads the node's own texts, then its variables and conditions. -/
theorem TaskNode.placeholders_eq (n : TaskNode) :
    TaskNode.placeholders n = Template.placeholders n.name ++ Template.placeholders n.command ++
      Template.placeholders n.jobName ++ Template.placeholders n.log ++
      n.env.flatMap EnvBinding.placeholders ++
      (Dependency.leavesOf n.dependency).flatMap Predicate.placeholders := by
  unfold TaskNode.placeholders placeholderTexts
  rw [List.flatMap_append, List.flatMap_append]
  congr 1
  congr 1
  · simp
  -- a text variable is read as its value, a cycle field not at all
  · induction n.env with
    | nil => rfl
    | cons b env ih =>
      obtain ⟨name, value⟩ := b
      cases value <;> simp [ih, EnvBinding.placeholders]
  -- a condition is read as its paths and compared texts
  · cases n.dependency with
    | none => rfl
    | some d =>
      simp only [Dependency.leavesOf, List.flatMap_assoc]
      congr 1
      funext p
      cases p <;> simp [Predicate.placeholders, DataCheck.placeholders, List.flatMap_map]


/-! ### The assembler's texts -/

theorem plain_taskName (g : CycleGroup) (k : TaskKind) : Plain (taskName g k) :=
  Template.plain_append.mpr ⟨CycleGroup.plain_label g, by cases k <;> decide⟩

/-- A placeholder written out names its variable, and the scan goes on after it. -/
theorem placeholders_placeholderText {v : String} (hv : Template.IsName v.toList) (rest : String) :
    Template.placeholders (placeholderText v ++ rest) = v :: Template.placeholders rest := by
  simp only [placeholderText, Template.placeholders, String.toList_append]
  rw [show "$\x7b".toList ++ v.toList ++ "\x7d".toList ++ rest.toList =
      '$' :: '{' :: (v.toList ++ '}' :: rest.toList) by simp,
    Template.scan_placeholder hv, String.ofList_toList]

/-- The scripts live in the jobs directory. -/
theorem placeholders_command (k : TaskKind) :
    Template.placeholders ("${JOBS_DIR}/" ++ k.name ++ ".sh") = ["JOBS_DIR"] := by
  have hdir : Template.placeholders "${JOBS_DIR}/" = ["JOBS_DIR"] := by
    rw [Template.placeholders_eq_scanFor]; decide
  rw [String.append_assoc, Template.placeholders_append (by decide),
    Template.placeholders_plain_append (by cases k <;> decide),
    Template.placeholders_of_plain (by decide : Plain ".sh"), hdir]
  rfl

section Node

variable {name : String}
  (hname : ∀ rest, Template.placeholders (name ++ rest) =
    Template.placeholders name ++ Template.placeholders rest)
include hname

/-- A job is named after the experiment, the task and the hour. -/
theorem placeholders_jobName :
    Template.placeholders ("${PSLOT}_" ++ name ++ "_${HH}") =
      "PSLOT" :: Template.placeholders name ++ ["HH"] := by
  have hslot : Template.placeholders "${PSLOT}" = ["PSLOT"] := by
    rw [Template.placeholders_eq_scanFor]; decide
  have hhour : Template.placeholders "_${HH}" = ["HH"] := by
    rw [Template.placeholders_eq_scanFor]; decide
  rw [show "${PSLOT}_" = "${PSLOT}" ++ "_" by decide, String.append_assoc, String.append_assoc,
    Template.placeholders_append (by decide), Template.placeholders_plain_append (by decide),
    hname, hslot, hhour]
  rfl

/-- A task logs under the cycle's directory of logs. -/
theorem placeholders_log :
    Template.placeholders ("${ROTDIR}/logs/${CDATE}/" ++ name ++ ".log") =
      "ROTDIR" :: "CDATE" :: Template.placeholders name := by
  have hdir : Template.placeholders "${ROTDIR}/logs/${CDATE}/" = ["ROTDIR", "CDATE"] := by
    rw [Template.placeholders_eq_scanFor]; decide
  rw [String.append_assoc, Template.placeholders_append (by decide), hname,
    Template.placeholders_of_plain (by decide : Plain ".log"), hdir]
  simp

/-- A node uses its name's placeholders, the assembler's and its description's. -/
theorem placeholders_nodeOf (s : TaskSpec) (r : Resources) (slots : List ResourceSlot)
    (m : Nat) :
    TaskNode.placeholders (nodeOf s name r slots m) =
      Template.placeholders name ++ ["JOBS_DIR"] ++
        ("PSLOT" :: Template.placeholders name ++ ["HH"]) ++
        ("ROTDIR" :: "CDATE" :: Template.placeholders name) ++ s.placeholders := by
  rw [TaskNode.placeholders_eq]
  simp only [nodeOf, placeholders_command, placeholders_jobName hname, placeholders_log hname,
    TaskSpec.placeholders, TaskSpec.leaves, List.append_assoc]

end Node

/-- An entry uses only the cycle fields, the standard bindings and the variables of its
fan-out, when its description does. -/
theorem placeholders_entryOf_subset {s : TaskSpec} (hk : s.PlaceholdersKnown) (r : Resources)
    (m : Nat) :
    TaskNode.placeholders (entryOf s r m).node ⊆
      Template.cycleFields ++ standardBindings ++ s.fanVariables := by
  have hplain : Plain s.name := plain_taskName s.group s.task
  cases hf : s.fanOut with
  | none =>
    -- a task without a fan-out is named after its group and kind only
    have hsplit : ∀ rest, Template.placeholders (s.name ++ rest) =
        Template.placeholders s.name ++ Template.placeholders rest := fun rest => by
      rw [Template.placeholders_plain_append hplain, Template.placeholders_of_plain hplain]
      rfl
    simp only [entryOf, hf, Entry.node]
    rw [placeholders_nodeOf hsplit, List.append_subset]
    refine ⟨?_, hk.placeholders⟩
    simp [Template.placeholders_of_plain hplain, standardBindings, rootKeys, Template.cycleFields]
  | some f =>
    -- a member is named after its task and the fan-out's variable
    have hv := hk.var f hf
    have hname : Template.placeholders (s.name ++ placeholderText f.var) = [f.var] := by
      have h := placeholders_placeholderText hv ""
      rw [String.append_empty, Template.placeholders_of_plain (by decide : Plain "")] at h
      rw [Template.placeholders_plain_append hplain, h]
    have hsplit : ∀ rest, Template.placeholders (s.name ++ placeholderText f.var ++ rest) =
        Template.placeholders (s.name ++ placeholderText f.var) ++
          Template.placeholders rest := fun rest => by
      rw [String.append_assoc, Template.placeholders_plain_append hplain,
        placeholders_placeholderText hv, hname]
      rfl
    have hvar : f.var ∈ s.fanVariables := by
      simp [TaskSpec.fanVariables, hf, FanOut.memberVariables]
    simp only [entryOf, hf, Entry.node]
    rw [placeholders_nodeOf hsplit, List.append_subset]
    refine ⟨?_, hk.placeholders⟩
    simp [hname, hvar, standardBindings, rootKeys, Template.cycleFields]

/-- An entry may use the cycle fields, the bindings and the variables of its fan-out. -/
theorem allowedPlaceholders_entryOf (G : Graph) (s : TaskSpec) (r : Resources) (m : Nat) :
    G.allowedPlaceholders (entryOf s r m) =
      Template.cycleFields ++ G.bindingNames ++ s.fanVariables := by
  unfold entryOf
  cases hf : s.fanOut <;> simp [allowedPlaceholders, TaskSpec.fanVariables, hf]

/-! ### The bindings -/

theorem mem_withBinding {n v : String} {x : String × String} :
    ∀ {l : List (String × String)}, x ∈ withBinding n v l → x = (n, v) ∨ x ∈ l
  | [], h => by simpa [withBinding] using h
  | (n', v') :: rest, h => by
    unfold withBinding at h
    split at h
    · simpa using h
    · split at h
      · simp only [List.mem_cons] at h ⊢
        rcases h with h | h
        · exact .inl h
        · exact .inr (.inr h)
      · simp only [List.mem_cons] at h ⊢
        rcases h with h | h
        · exact .inr (.inl h)
        · rcases mem_withBinding h with h | h
          · exact .inl h
          · exact .inr (.inr h)

/-- Binding a name keeps the names already bound. -/
@[simp] theorem mem_names_withBinding {n v m : String} :
    ∀ {l : List (String × String)},
      m ∈ (withBinding n v l).map Prod.fst ↔ m = n ∨ m ∈ l.map Prod.fst
  | [] => by simp [withBinding]
  | (n', v') :: rest => by
    unfold withBinding
    split
    · simp
    · split
      · next h => subst h; simp
      · simp only [List.map_cons, List.mem_cons, mem_names_withBinding]
        exact or_left_comm

theorem forall_mem_withBinding {P : String × String → Prop} {n v : String}
    {l : List (String × String)} (hv : P (n, v)) (hl : ∀ x ∈ l, P x) :
    ∀ x ∈ withBinding n v l, P x := fun x hx => by
  rcases mem_withBinding hx with rfl | hx
  · exact hv
  · exact hl x hx

/-- With the root directories set and no `$` in its texts, a base binds the standard names,
and only the default jobs directory names a placeholder, the home directory. -/
theorem bindingsOf_bound {base : Config.Scope} (hb : base.Plain)
    (hroots : ∀ k ∈ rootKeys, (base.string? k).isSome) {bs : List (String × String)}
    (h : bindingsOf base = .ok bs) :
    standardBindings ⊆ bs.map Prod.fst ∧
      ∀ x ∈ bs, Template.placeholders x.2 ⊆ ["HOMEgfs"] := by
  have hroot := fun k (hk : k ∈ rootKeys) => Option.isSome_iff_exists.mp (hroots k hk)
  obtain ⟨rot, hrot⟩ := hroot "ROTDIR" (by decide)
  obtain ⟨ics, hics⟩ := hroot "ICSDIR" (by decide)
  obtain ⟨dmp, hdmp⟩ := hroot "DMPDIR" (by decide)
  obtain ⟨exp, hexp⟩ := hroot "EXPDIR" (by decide)
  obtain ⟨home, hhome⟩ := hroot "HOMEgfs" (by decide)
  unfold bindingsOf at h
  dsimp only at h
  split at h
  case h_2 => simp [throw, throwThe, MonadExceptOf.throw, bind, Except.bind] at h
  rename_i pslot hp
  simp only [pure_bind] at h
  obtain ⟨archive, -, h⟩ := exists_ok_of_bind_ok h
  obtain rfl := Except.ok.inj h
  -- the jobs directory is configured, or the default under the home directory
  have hjobs : Template.placeholders
      ((base.string? "BASE_JOB").getD "${HOMEgfs}/jobs/rocoto") ⊆ ["HOMEgfs"] := by
    cases hj : base.string? "BASE_JOB" with
    | none =>
      have hdefault : Template.placeholders "${HOMEgfs}/jobs/rocoto" = ["HOMEgfs"] := by
        rw [Template.placeholders_eq_scanFor]; decide
      simp [hdefault]
    | some j => simp [Template.placeholders_of_plain (hb.string? hj)]
  have hplain : ∀ {k v}, base.string? k = some v → Template.placeholders v ⊆ ["HOMEgfs"] :=
    fun hv => by simp [Template.placeholders_of_plain (hb.string? hv)]
  have hrun := Template.placeholders_of_plain (hb.stringOr "RUN_ENVIR" (d := "emc") (by decide))
  have harchive : Template.placeholders (if archive then "YES" else "NO") = [] := by
    split <;> exact Template.placeholders_of_plain (by decide)
  simp only [rootKeys, List.foldl_cons, List.foldl_nil, hrot, hics, hdmp, hexp, hhome]
  constructor
  · simp [standardBindings, rootKeys]
  -- one binding at a time: the switch, the run environment, the jobs directory, the roots
  · repeat' refine forall_mem_withBinding ?_ ?_
    all_goals first
      | exact hjobs
      | exact hplain ‹_›
      | simp [hrun, harchive]

/-! ### Compiling up to the checks -/

/-- The graph assembled from a calendar and its described tasks, before it is checked. -/
def assembleUnchecked (cal : Calendar) (specs : List TaskSpec) (generatedAt : String) :
    Outcome Graph := do
  let e := cal.experiment
  let sched ← Config.schedulerOf e.base
  let settings ← settingsOf e.base
  let bindings ← bindingsOf e.base
  let pslot := ((bindings.find? (·.1 == "PSLOT")).map (·.2)).getD ""
  let entries ← specs.mapM fun s => do
    let r ← Resources.resolve e sched s.task s.group
    return (s.group, entryOf s r settings.maxTries)
  return { mode := e.mode, generatedAt, pslot, bindings, settings,
           cadences := cal.cadences.filter (·.valid), groups := groupEntries entries }

/-- The graph an experiment compiles to, before it is checked. -/
def compileUnchecked (e : Experiment) (generatedAt : String) : Outcome Graph := do
  let cal ← Calendar.derive e
  let catalog ← Catalog.ofCalendar cal
  let specs ← catalog.build
  assembleUnchecked cal specs generatedAt

/-- Assembling is assembling up to the checks, then checking. -/
theorem assemble_eq (cal : Calendar) (specs : List TaskSpec) (generatedAt : String) :
    assemble cal specs generatedAt = (do
      let g ← assembleUnchecked cal specs generatedAt
      g.validate
      return g) := by
  simp only [assemble, assembleUnchecked, bind_assoc, pure_bind]

/-- Compiling is compiling up to the checks, then checking. -/
theorem compile_eq (e : Experiment) (generatedAt : String) :
    compile e generatedAt = (do
      let g ← compileUnchecked e generatedAt
      g.validate
      return g) := by
  simp only [compile, compileUnchecked, assemble_eq, bind_assoc]

/-- A compiled graph is the graph compiled up to the checks, which it passed. -/
theorem compileUnchecked_of_compile {e : Experiment} {t : String} {G : Graph}
    (h : compile e t = .ok G) : compileUnchecked e t = .ok G ∧ G.validate = .ok () := by
  rw [compile_eq] at h
  obtain ⟨G', hG', h⟩ := exists_ok_of_bind_ok h
  obtain ⟨u, hv, h⟩ := exists_ok_of_bind_ok h
  obtain rfl := Except.ok.inj h
  exact ⟨hG', hv⟩

/-- A graph assembled up to the checks holds the bindings of the calendar's base and the
entries of the described tasks. -/
theorem assembleUnchecked_ok {cal : Calendar} {specs : List TaskSpec} {t : String} {G : Graph}
    (h : assembleUnchecked cal specs t = .ok G) :
    bindingsOf cal.base = .ok G.bindings ∧ ∃ m, EntriesOf G specs m := by
  unfold assembleUnchecked at h
  obtain ⟨sched, -, h⟩ := exists_ok_of_bind_ok h
  obtain ⟨settings, -, h⟩ := exists_ok_of_bind_ok h
  obtain ⟨bindings, hbind, h⟩ := exists_ok_of_bind_ok h
  obtain ⟨entries, hes, h⟩ := exists_ok_of_bind_ok h
  obtain rfl := Except.ok.inj h
  exact ⟨hbind, settings.maxTries, entriesOf_groupEntries hes rfl⟩

/-- Every graph an experiment compiles to passes the checks of bindings and placeholders, in
every mode and for every choice of switches, when the base sets the root directories and none
of its texts holds a `$`: every placeholder in a binding is bound, and every placeholder in an
entry's texts is a cycle field, a binding or a variable of the entry's fan-out. -/
theorem compile_placeholders_bound {e : Experiment} {generatedAt : String} {G : Graph}
    (hplain : e.base.Plain) (hroots : ∀ k ∈ rootKeys, (e.base.string? k).isSome)
    (h : compileUnchecked e generatedAt = .ok G) :
    G.checkBindings = .ok () ∧ G.checkPlaceholders = .ok () := by
  unfold compileUnchecked at h
  obtain ⟨cal, hd, h⟩ := exists_ok_of_bind_ok h
  obtain ⟨cat, hc, h⟩ := exists_ok_of_bind_ok h
  obtain ⟨specs, hs, h⟩ := exists_ok_of_bind_ok h
  obtain ⟨hbind, m, hE⟩ := assembleUnchecked_ok h
  -- the derived base keeps the root directories and stays free of `$`
  have hbase : cal.base.Plain := Calendar.derive_plain hplain hd
  have hroots' : ∀ k ∈ rootKeys, (cal.base.string? k).isSome := fun k hk => by
    obtain ⟨extra, -, hexp⟩ := Calendar.derive_ok hd
    rw [Calendar.base, hexp]
    exact Config.Scope.isSome_string?_extend (hroots k hk) _
  obtain ⟨hstd, hvals⟩ := bindingsOf_bound hbase hroots' hbind
  have hknown := Catalog.build_placeholdersKnown hbase hc hs
  refine ⟨checkBindings_eq_ok fun x hx p hp => .inr ?_, checkPlaceholders_eq_ok fun x hx => ?_⟩
  · -- the only placeholder of a binding is the home directory, itself a binding
    have hp := hvals x hx hp
    simp only [List.mem_singleton] at hp
    subst hp
    exact hstd (by decide)
  · obtain ⟨s, hs, r, rfl⟩ := hE.described x hx
    rw [allowedPlaceholders_entryOf]
    refine List.Subset.trans (placeholders_entryOf_subset (hknown s hs) r m) fun p hp => ?_
    simp only [List.mem_append] at hp ⊢
    rcases hp with (hp | hp) | hp
    · exact .inl (.inl hp)
    · exact .inl (.inr (hstd hp))
    · exact .inr hp

theorem omfComplete_placeholders_bound : ∃ G, Graph.compileUnchecked omfComplete "" = .ok G ∧
    G.checkBindings = .ok () ∧ G.checkPlaceholders = .ok () := by
  obtain ⟨G, hG⟩ := omfComplete_compiles
  have hU := (compileUnchecked_of_compile hG).1
  exact ⟨G, hU, compile_placeholders_bound (by decide) (by decide) hU⟩

end Graph

end CycledWorkflow
